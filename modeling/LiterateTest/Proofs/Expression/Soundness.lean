import LiterateTest.Proofs.Expression.Grammar

/-! Whatever a reader accepts, the grammar derives: the tokens it has passed stand for the
expression that it gives, and their nesting is within its budget. -/

namespace LiterateTest.Expression

/-! ## Single steps -/

theorem ok_of_bind {ε α β : Type} {first : Except ε α} {next : α → Except ε β} {result : β}
    (ok : (first >>= next) = .ok result) :
    ∃ value, first = .ok value ∧ next value = .ok result := by
  cases first with
  | error fault => cases ok
  | ok value => exact ⟨value, rfl, ok⟩

theorem cons_of_nextToken? {lexemes : List Lexeme} {token : Token}
    (next : nextToken? lexemes = some token) :
    ∃ lexeme, lexemes = lexeme :: lexemes.drop 1 ∧ lexeme.token = token := by
  cases lexemes with
  | nil => cases next
  | cons lexeme rest => exact ⟨lexeme, rfl, Option.some.inj next⟩

theorem cons_of_operator? {α : Type} {operator? : Token → Option α} {lexemes : List Lexeme}
    {op : α} (next : (nextToken? lexemes).bind operator? = some op) :
    ∃ lexeme, lexemes = lexeme :: lexemes.drop 1 ∧ operator? lexeme.token = some op := by
  rcases Option.bind_eq_some_iff.mp next with ⟨token, isToken, isOp⟩
  rcases cons_of_nextToken? isToken with ⟨lexeme, split, rfl⟩
  exact ⟨lexeme, split, isOp⟩

theorem cons_of_expect {token : Token} {fault : ParseFault} {lexemes rest : List Lexeme}
    (ok : expect token fault lexemes = .ok rest) :
    ∃ lexeme, lexemes = lexeme :: rest ∧ lexeme.token = token := by
  rw [expect] at ok
  split at ok
  · next same =>
      cases ok
      exact cons_of_nextToken? same
  · cases ok

/-! ## What readers pass -/

/-- The lexemes up to `rest` stand for the phrase, and their nesting is within the budget. -/
def Passes (phrase : Phrase) (budget : Nat) (lexemes rest : List Lexeme) : Prop :=
  ∃ passed nesting, lexemes = passed ++ rest ∧ Derives phrase (passed.map Lexeme.token) nesting ∧
    nesting ≤ budget

def Sound (reader : Reader Expr) (budget : Nat) : Prop :=
  ∀ lexemes expr rest, reader lexemes = .ok (expr, rest) →
    Passes (.expression expr) budget lexemes rest

theorem Passes.brackets {budget : Nat} {phrase whole : Phrase} {opener closer : Lexeme}
    {lexemes rest : List Lexeme} (passes : Passes phrase budget lexemes (closer :: rest))
    (derives : ∀ inside nesting, Derives phrase inside nesting →
      Derives whole (opener.token :: (inside ++ [closer.token])) nesting) :
    Passes whole budget (opener :: lexemes) rest := by
  rcases passes with ⟨passed, nesting, rfl, inside, fits⟩
  exact ⟨opener :: (passed ++ [closer]), nesting, by simp,
    by simpa using derives _ _ inside, fits⟩

theorem Passes.single {budget : Nat} {lexeme : Lexeme} {rest : List Lexeme} {phrase : Phrase}
    (derives : Derives phrase [lexeme.token] 0) : Passes phrase budget (lexeme :: rest) rest :=
  ⟨[lexeme], 0, rfl, derives, Nat.zero_le budget⟩

theorem Passes.literal {budget : Nat} {lexeme : Lexeme} {rest : List Lexeme} {token : Token}
    {expr : Expr} (same : lexeme.token = token) (found : token.literal? = some expr) :
    Passes (.primary expr) budget (lexeme :: rest) rest :=
  .single (.literal (same ▸ found))

theorem literal?_of_literalFloat {value : Float} {unread : List Lexeme} {expr : Expr}
    (ok : literalFloat value unread = .ok expr) : (Token.float value).literal? = some expr := by
  rw [literalFloat] at ok
  split at ok
  · next number finite =>
      cases ok
      change (Number.ofFloat? value).map _ = _
      rw [finite]
      rfl
  · cases ok

section Inner

variable {inner : Reader Expr} {budget : Nat} (sound : Sound inner budget)
include sound

theorem passes_of_argumentsRest {close : Token} {steps : Nat} {lexemes rest : List Lexeme}
    {items : List Expr} (ok : argumentsRest inner close steps lexemes = .ok (items, rest)) :
    ∃ closer, Passes (.items items) budget lexemes (closer :: rest) ∧ closer.token = close := by
  induction steps generalizing lexemes items with
  | zero => cases ok
  | succ steps induction =>
      rw [argumentsRest] at ok
      rcases ok_of_bind ok with ⟨⟨item, between⟩, first, others⟩
      rcases sound _ _ _ first with ⟨passed, nesting, rfl, derives, fits⟩
      dsimp only at others
      split at others
      · next isComma =>
          rcases cons_of_nextToken? isComma with ⟨comma, split, commaToken⟩
          rcases ok_of_bind others with ⟨⟨more, after⟩, second, last⟩
          cases last
          rcases induction second with ⟨closer, ⟨more, within, splitMore, moreDerives, moreFits⟩,
            closes⟩
          refine ⟨closer, ⟨passed ++ comma :: more, max nesting within, ?_, ?_,
            Nat.max_le.mpr ⟨fits, moreFits⟩⟩, closes⟩
          · rw [split, splitMore]
            simp
          · simpa [commaToken] using derives.moreItems moreDerives
      · split at others
        · next isClose =>
            cases others
            rcases cons_of_nextToken? isClose with ⟨closer, split, closes⟩
            exact ⟨closer, ⟨passed, nesting, by rw [← split], derives.lastItem, fits⟩, closes⟩
        · cases others

theorem passes_of_arguments {close : Token} {lexemes rest : List Lexeme} {items : List Expr}
    (ok : arguments inner close lexemes = .ok (items, rest)) :
    ∃ closer, Passes (.arguments items) budget lexemes (closer :: rest) ∧
      closer.token = close := by
  rw [arguments] at ok
  split at ok
  · next isClose =>
      cases ok
      rcases cons_of_nextToken? isClose with ⟨closer, split, closes⟩
      exact ⟨closer, ⟨[], 0, split, .noArguments, Nat.zero_le budget⟩, closes⟩
  · rcases passes_of_argumentsRest sound ok with ⟨closer, ⟨passed, nesting, split, derives, fits⟩,
      closes⟩
    exact ⟨closer, ⟨passed, nesting, split, derives.someArguments, fits⟩, closes⟩

theorem passes_of_entriesRest {steps : Nat} {lexemes rest : List Lexeme}
    {pairs : List (Expr × Expr)} (ok : entriesRest inner steps lexemes = .ok (pairs, rest)) :
    ∃ closer, Passes (.pairs pairs) budget lexemes (closer :: rest) ∧
      closer.token = .rightBrace := by
  induction steps generalizing lexemes pairs with
  | zero => cases ok
  | succ steps induction =>
      rw [entriesRest] at ok
      rcases ok_of_bind ok with ⟨⟨key, afterKey⟩, keyOk, ok⟩
      rcases ok_of_bind ok with ⟨beforeValue, colonOk, ok⟩
      rcases ok_of_bind ok with ⟨⟨value, between⟩, valueOk, others⟩
      rcases sound _ _ _ keyOk with ⟨passed, nesting, rfl, derives, fits⟩
      rcases cons_of_expect colonOk with ⟨colon, rfl, colonToken⟩
      rcases sound _ _ _ valueOk with ⟨passedValue, within, rfl, valueDerives, valueFits⟩
      dsimp only at others
      split at others
      · next isComma =>
          rcases cons_of_nextToken? isComma with ⟨comma, split, commaToken⟩
          rcases ok_of_bind others with ⟨⟨more, after⟩, second, last⟩
          cases last
          rcases induction second with ⟨closer, ⟨more, other, splitMore, moreDerives, moreFits⟩,
            closes⟩
          refine ⟨closer, ⟨passed ++ colon :: (passedValue ++ comma :: more),
            max nesting (max within other), ?_, ?_,
            Nat.max_le.mpr ⟨fits, Nat.max_le.mpr ⟨valueFits, moreFits⟩⟩⟩, closes⟩
          · rw [split, splitMore]
            simp
          · simpa [colonToken, commaToken] using derives.morePairs valueDerives moreDerives
      · split at others
        · next isClose =>
            cases others
            rcases cons_of_nextToken? isClose with ⟨closer, split, closes⟩
            refine ⟨closer, ⟨passed ++ colon :: passedValue, max nesting within, ?_, ?_,
              Nat.max_le.mpr ⟨fits, valueFits⟩⟩, closes⟩
            · rw [split]
              simp
            · simpa [colonToken] using derives.lastPair valueDerives
        · cases others

theorem passes_of_entries {lexemes rest : List Lexeme} {pairs : List (Expr × Expr)}
    (ok : entries inner lexemes = .ok (pairs, rest)) :
    ∃ closer, Passes (.entries pairs) budget lexemes (closer :: rest) ∧
      closer.token = .rightBrace := by
  rw [entries] at ok
  split at ok
  · next isClose =>
      cases ok
      rcases cons_of_nextToken? isClose with ⟨closer, split, closes⟩
      exact ⟨closer, ⟨[], 0, split, .noEntries, Nat.zero_le budget⟩, closes⟩
  · rcases passes_of_entriesRest sound ok with ⟨closer, ⟨passed, nesting, split, derives, fits⟩,
      closes⟩
    exact ⟨closer, ⟨passed, nesting, split, derives.someEntries, fits⟩, closes⟩

/-! ## Primary expressions -/

theorem passes_of_word {name : String} {lexeme : Lexeme} {after rest : List Lexeme} {expr : Expr}
    (token : lexeme.token = .word name)
    (ok : (if nextToken? after = some .leftParen then do
        let (items, rest) ← arguments inner .rightParen (after.drop 1)
        .ok (.call name items, rest)
      else .ok (.reference name, after)) = Except.ok (expr, rest)) :
    Passes (.primary expr) budget (lexeme :: after) rest := by
  split at ok
  · next isOpener =>
      rcases cons_of_nextToken? isOpener with ⟨opener, split, opens⟩
      rcases ok_of_bind ok with ⟨⟨items, between⟩, inside, last⟩
      cases last
      rcases passes_of_arguments sound inside with ⟨closer, ⟨passed, nesting, splitInside,
        derives, fits⟩, closes⟩
      refine ⟨lexeme :: opener :: (passed ++ [closer]), nesting, ?_, ?_, fits⟩
      · rw [split, splitInside]
        simp
      · simpa [token, opens, closes] using derives.call
  · cases ok
    exact .single (token ▸ .reference name)

theorem passes_of_primary {lexemes rest : List Lexeme} {expr : Expr}
    (ok : primary inner lexemes = .ok (expr, rest)) :
    Passes (.primary expr) budget lexemes rest := by
  cases lexemes with
  | nil => cases ok
  | cons lexeme after =>
      rw [primary] at ok
      cases token : lexeme.token with
      | int value =>
          rw [token] at ok
          cases ok
          exact .literal token (Token.literal?_int value)
      | float value =>
          rw [token] at ok
          rcases ok_of_bind ok with ⟨literal, isLiteral, last⟩
          cases last
          exact .literal token (literal?_of_literalFloat isLiteral)
      | string | trueWord | falseWord | nullWord =>
          rw [token] at ok
          cases ok
          exact .literal token rfl
      | word name =>
          rw [token] at ok
          exact passes_of_word sound token ok
      | leftParen =>
          rw [token] at ok
          rcases ok_of_bind ok with ⟨⟨inside, between⟩, insideOk, others⟩
          rcases ok_of_bind others with ⟨afterCloser, closerOk, last⟩
          cases last
          rcases cons_of_expect closerOk with ⟨closer, rfl, closes⟩
          apply (sound _ _ _ insideOk).brackets
          rw [token, closes]
          exact fun _ _ => .group
      | leftBracket =>
          rw [token] at ok
          rcases ok_of_bind ok with ⟨⟨items, between⟩, inside, last⟩
          cases last
          rcases passes_of_arguments sound inside with ⟨closer, passes, closes⟩
          apply passes.brackets
          rw [token, closes]
          exact fun _ _ => .list
      | leftBrace =>
          rw [token] at ok
          rcases ok_of_bind ok with ⟨⟨pairs, between⟩, inside, last⟩
          cases last
          rcases passes_of_entries sound inside with ⟨closer, passes, closes⟩
          apply passes.brackets
          rw [token, closes]
          exact fun _ _ => .map
      | _ =>
          rw [token] at ok
          cases ok

/-! ## What follows a primary expression -/

/-- A longer expression and the lexemes that make it so, where the tokens `before` stand for the
target. -/
def Lengthens (length : Nat) (longer : Expr) (before : List Token) (nesting budget : Nat)
    (lexemes rest : List Lexeme) : Prop :=
  ∃ passed within, lexemes = passed ++ rest ∧ within ≤ budget ∧
    Derives (.postfixed (length + 1) longer) (before ++ passed.map Lexeme.token)
      (max nesting (within + length + 1))

section Target

variable {length nesting : Nat} {target : Expr} {before : List Token}
  (derives : Derives (.postfixed length target) before nesting)
include derives

theorem lengthens_of_methodCall {name : String} {dot word opener : Lexeme}
    (isDot : dot.token = .dot) (isWord : word.token = .word name)
    (opens : opener.token = .leftParen) {lexemes rest : List Lexeme} {longer : Expr}
    (ok : methodCall inner target name lexemes = .ok (longer, rest)) :
    Lengthens length longer before nesting budget (dot :: word :: opener :: lexemes) rest := by
  rw [methodCall] at ok
  split at ok
  · next quantifier isQuantifier =>
      rcases ok_of_bind ok with ⟨⟨⟨loopVariable, body⟩, between⟩, loop, last⟩
      cases last
      rw [loopBody.eq_def] at loop
      split at loop
      · next loopWord offset after =>
          rcases ok_of_bind loop with ⟨afterComma, commaOk, bodyPart⟩
          rcases ok_of_bind bodyPart with ⟨⟨inside, afterBody⟩, bodyOk, closing⟩
          rcases ok_of_bind closing with ⟨afterCloser, closerOk, last⟩
          cases last
          rcases cons_of_expect commaOk with ⟨comma, rfl, isComma⟩
          rcases sound _ _ _ bodyOk with ⟨passed, within, rfl, bodyDerives, fits⟩
          rcases cons_of_expect closerOk with ⟨closer, rfl, closes⟩
          refine ⟨dot :: word :: opener :: ⟨.word loopVariable, offset⟩ :: comma ::
            (passed ++ [closer]), within, by simp, fits, ?_⟩
          simpa [isDot, isWord, opens, isComma, closes] using
            derives.quantified loopVariable isQuantifier bodyDerives
      · cases loop
  · next plain =>
      rcases ok_of_bind ok with ⟨⟨items, between⟩, inside, last⟩
      cases last
      rcases passes_of_arguments sound inside with ⟨closer, ⟨passed, within, rfl, itemsDerive,
        fits⟩, closes⟩
      refine ⟨dot :: word :: opener :: (passed ++ [closer]), within, by simp, fits, ?_⟩
      simpa [isDot, isWord, opens, closes] using derives.method plain itemsDerive

theorem lengthens_of_selection {dot : Lexeme} (isDot : dot.token = .dot)
    {lexemes rest : List Lexeme} {longer : Expr}
    (ok : selection inner target lexemes = .ok (longer, rest)) :
    Lengthens length longer before nesting budget (dot :: lexemes) rest := by
  rw [selection.eq_def] at ok
  split at ok
  · next name offset after =>
      split at ok
      · next isOpener =>
          rcases cons_of_nextToken? isOpener with ⟨opener, split, opens⟩
          rw [split]
          exact lengthens_of_methodCall sound derives isDot rfl opens ok
      · cases ok
        refine ⟨[dot, ⟨.word name, offset⟩], 0, rfl, Nat.zero_le budget, ?_⟩
        simpa [isDot] using derives.member name
  · cases ok

theorem lengthens_of_subscript {opener : Lexeme} (opens : opener.token = .leftBracket)
    {lexemes rest : List Lexeme} {longer : Expr}
    (ok : subscript inner target lexemes = .ok (longer, rest)) :
    Lengthens length longer before nesting budget (opener :: lexemes) rest := by
  rw [subscript] at ok
  rcases ok_of_bind ok with ⟨⟨key, between⟩, keyOk, closing⟩
  rcases ok_of_bind closing with ⟨afterCloser, closerOk, last⟩
  cases last
  rcases sound _ _ _ keyOk with ⟨passed, within, rfl, keyDerives, fits⟩
  rcases cons_of_expect closerOk with ⟨closer, rfl, closes⟩
  refine ⟨opener :: (passed ++ [closer]), within, by simp, fits, ?_⟩
  simpa [opens, closes] using derives.index keyDerives

theorem lengthens_of_postfixReader? {reader : Reader Expr → Expr → Reader Expr}
    {lexemes rest : List Lexeme} {longer : Expr}
    (isReader : postfixReader? (nextToken? lexemes) = some reader)
    (ok : reader inner target (lexemes.drop 1) = .ok (longer, rest)) :
    Lengthens length longer before nesting budget lexemes rest := by
  rw [postfixReader?.eq_def] at isReader
  split at isReader
  · next isDot =>
      cases isReader
      rcases cons_of_nextToken? isDot with ⟨dot, split, dotToken⟩
      rw [split]
      exact lengthens_of_selection sound derives dotToken ok
  · next isOpener =>
      cases isReader
      rcases cons_of_nextToken? isOpener with ⟨opener, split, opens⟩
      rw [split]
      exact lengthens_of_subscript sound derives opens ok
  · cases isReader

end Target

end Inner

section Budgets

variable {inner : Nat → Reader Expr} (sound : ∀ budget, Sound (inner budget) budget)
include sound

/-- What has been read before counts with the nesting that was spent on it: one for each selection
and subscript. -/
theorem passes_of_postfixRest {budget length nesting : Nat} {target expr : Expr}
    {before lexemes rest : List Lexeme}
    (derives : Derives (.postfixed length target) (before.map Lexeme.token) nesting)
    (fits : nesting ≤ budget + length)
    (ok : postfixRest inner budget target lexemes = .ok (expr, rest)) :
    ∃ total, Passes (.postfixed total expr) (budget + length) (before ++ lexemes) rest := by
  induction budget generalizing length nesting target before lexemes with
  | zero =>
      rw [postfixRest] at ok
      split at ok
      · cases ok
        exact ⟨length, before, nesting, rfl, derives, fits⟩
      · cases ok
  | succ budget induction =>
      rw [postfixRest] at ok
      split at ok
      · cases ok
        exact ⟨length, before, nesting, rfl, derives, fits⟩
      · next reader isReader =>
          rcases ok_of_bind ok with ⟨⟨longer, between⟩, step, others⟩
          rcases lengthens_of_postfixReader? (sound budget) derives isReader step with
            ⟨passed, within, rfl, withinFits, longerDerives⟩
          rw [← List.map_append] at longerDerives
          rcases induction longerDerives (by omega) others with
            ⟨total, all, most, split, allDerive, allFit⟩
          refine ⟨total, all, most, ?_, allDerive, by omega⟩
          rw [← split, List.append_assoc]

theorem passes_of_postfixed {budget : Nat} {expr : Expr} {lexemes rest : List Lexeme}
    (ok : postfixed inner budget lexemes = .ok (expr, rest)) :
    Passes (.unary expr) budget lexemes rest := by
  rw [postfixed] at ok
  rcases ok_of_bind ok with ⟨⟨target, between⟩, targetOk, others⟩
  rcases passes_of_primary (sound budget) targetOk with ⟨passed, nesting, rfl, derives, fits⟩
  rcases passes_of_postfixRest sound derives.bare fits others with
    ⟨total, all, most, split, allDerive, allFit⟩
  exact ⟨all, most, split, allDerive.plain, allFit⟩

theorem passes_of_unary {budget : Nat} {expr : Expr} {lexemes rest : List Lexeme}
    (ok : unary inner budget lexemes = .ok (expr, rest)) :
    Passes (.unary expr) budget lexemes rest := by
  induction budget generalizing lexemes expr with
  | zero =>
      rw [unary] at ok
      split at ok
      · exact passes_of_postfixed sound ok
      · cases ok
  | succ budget induction =>
      rw [unary] at ok
      split at ok
      · exact passes_of_postfixed sound ok
      · next op isOp =>
          rcases ok_of_bind ok with ⟨⟨operand, between⟩, operandOk, last⟩
          cases last
          rcases cons_of_operator? isOp with ⟨lexeme, split, tokenIsOp⟩
          rcases induction operandOk with ⟨passed, nesting, splitOperand, derives, fits⟩
          refine ⟨lexeme :: passed, nesting + 1, ?_, derives.unary tokenIsOp, by omega⟩
          rw [split, splitOperand]
          rfl

/-! ## Chains -/

section Chains

variable {level : Level}
  (operands : ∀ budget lexemes expr rest,
    level.readOperand inner budget lexemes = .ok (expr, rest) →
      Passes (.operand level expr) budget lexemes rest)
include operands
omit sound

theorem passes_of_chainRest {budget length nesting : Nat} {left expr : Expr}
    {before lexemes rest : List Lexeme}
    (derives : Derives (.chain level length left) (before.map Lexeme.token) nesting)
    (fits : nesting ≤ budget + length)
    (ok : chainRest level.operator? (level.readOperand inner) budget left lexemes =
      .ok (expr, rest)) :
    ∃ total, Passes (.chain level total expr) (budget + length) (before ++ lexemes) rest := by
  induction budget generalizing length nesting left before lexemes with
  | zero =>
      rw [chainRest] at ok
      split at ok
      · cases ok
        exact ⟨length, before, nesting, rfl, derives, fits⟩
      · cases ok
  | succ budget induction =>
      rw [chainRest] at ok
      split at ok
      · cases ok
        exact ⟨length, before, nesting, rfl, derives, fits⟩
      · next op isOp =>
          rcases ok_of_bind ok with ⟨⟨right, between⟩, rightOk, others⟩
          rcases cons_of_operator? isOp with ⟨lexeme, split, tokenIsOp⟩
          rcases operands _ _ _ _ rightOk with ⟨passed, within, splitRight, rightDerives, rightFits⟩
          have longer : Derives (.chain level (length + 1) (.binary op left right))
              ((before ++ lexeme :: passed).map Lexeme.token)
              (max nesting (within + length + 1)) := by
            simpa using derives.binary tokenIsOp rightDerives
          rcases induction longer (by omega) others with
            ⟨total, all, most, splitAll, allDerive, allFit⟩
          refine ⟨total, all, most, ?_, allDerive, by omega⟩
          rw [← splitAll, split, splitRight]
          simp

theorem passes_of_chain {budget : Nat} {expr : Expr} {lexemes rest : List Lexeme}
    (ok : level.readChain inner budget lexemes = .ok (expr, rest)) :
    ∃ length, Passes (.chain level length expr) budget lexemes rest := by
  rw [Level.readChain, chain] at ok
  rcases ok_of_bind ok with ⟨⟨left, between⟩, leftOk, others⟩
  rcases operands _ _ _ _ leftOk with ⟨passed, nesting, rfl, derives, fits⟩
  exact passes_of_chainRest operands derives.first fits others

end Chains

theorem passes_of_operand (level : Level) : ∀ budget lexemes expr rest,
    level.readOperand inner budget lexemes = .ok (expr, rest) →
      Passes (.operand level expr) budget lexemes rest := by
  intro budget lexemes expr rest ok
  cases isTighter : level.tighter? with
  | none =>
      cases Level.eq_product_of_none isTighter
      rcases passes_of_unary sound ok with ⟨passed, nesting, split, derives, fits⟩
      exact ⟨passed, nesting, split, derives.factor, fits⟩
  | some tighter =>
      rw [Level.readOperand_of_tighter inner isTighter] at ok
      rcases passes_of_chain (passes_of_operand tighter) ok with
        ⟨length, passed, nesting, split, derives, fits⟩
      exact ⟨passed, nesting, split, derives.tighter isTighter, fits⟩
  termination_by level.rank
  decreasing_by
    have rank := Level.rank_of_tighter isTighter
    omega

theorem passes_of_disjunction {budget : Nat} {expr : Expr} {lexemes rest : List Lexeme}
    (ok : disjunction inner budget lexemes = .ok (expr, rest)) :
    ∃ length, Passes (.chain .disjunction length expr) budget lexemes rest :=
  passes_of_chain (passes_of_operand sound .disjunction) ok

theorem passes_of_conditional {budget : Nat} {expr : Expr} {lexemes rest : List Lexeme}
    (ok : conditional inner budget lexemes = .ok (expr, rest)) :
    Passes (.expression expr) (budget + 1) lexemes rest := by
  rw [conditional] at ok
  rcases ok_of_bind ok with ⟨⟨condition, afterCondition⟩, conditionOk, others⟩
  rcases passes_of_disjunction sound conditionOk with
    ⟨length, passed, nesting, rfl, derives, fits⟩
  dsimp only at others
  split at others
  · next isQuestion =>
      rcases cons_of_nextToken? isQuestion with ⟨question, split, questionToken⟩
      rcases ok_of_bind others with ⟨⟨whenTrue, beforeColon⟩, trueOk, colonPart⟩
      rcases ok_of_bind colonPart with ⟨afterColon, colonOk, falsePart⟩
      rcases ok_of_bind falsePart with ⟨⟨whenFalse, between⟩, falseOk, last⟩
      cases last
      rcases passes_of_disjunction sound trueOk with
        ⟨trueLength, passedTrue, trueNesting, splitTrue, trueDerives, trueFits⟩
      rcases cons_of_expect colonOk with ⟨colon, rfl, colonToken⟩
      rcases sound _ _ _ _ falseOk with
        ⟨passedFalse, falseNesting, rfl, falseDerives, falseFits⟩
      refine ⟨passed ++ question :: (passedTrue ++ colon :: passedFalse),
        max nesting (max trueNesting falseNesting) + 1, ?_, ?_, by omega⟩
      · rw [split, splitTrue]
        simp
      · simpa [questionToken, colonToken] using derives.conditional trueDerives falseDerives
  · cases others
    exact ⟨passed, nesting + 1, rfl, derives.unconditional, by omega⟩

end Budgets

/-! ## Bounds on steps -/

section Bounds

variable {inner : Reader Expr} {budget : Nat} (sound : Sound inner budget)
include sound

theorem length_lt_of_sound {lexemes rest : List Lexeme} {expr : Expr}
    (ok : inner lexemes = .ok (expr, rest)) : rest.length < lexemes.length := by
  rcases sound _ _ _ ok with ⟨passed, nesting, rfl, derives, -⟩
  rcases derives.starts with ⟨first, others, same, -⟩ | isArguments | isEntries
  · have length := congrArg List.length same
    rw [List.length_map, List.length_cons] at length
    rw [List.length_append]
    omega
  · cases isArguments
  · cases isEntries

/-- More steps than there are lexemes are never used up. -/
theorem argumentsRest_eq_of_lt (close : Token) {steps more : Nat} {lexemes : List Lexeme}
    (enough : lexemes.length < steps) (alsoEnough : lexemes.length < more) :
    argumentsRest inner close steps lexemes = argumentsRest inner close more lexemes := by
  induction steps generalizing more lexemes with
  | zero => omega
  | succ steps induction =>
      cases more with
      | zero => omega
      | succ more =>
          rw [argumentsRest, argumentsRest]
          cases read : inner lexemes with
          | error failure => rfl
          | ok found =>
              have shorter := length_lt_of_sound sound read
              have later : argumentsRest inner close steps (found.2.drop 1) =
                  argumentsRest inner close more (found.2.drop 1) := by
                apply induction <;> rw [List.length_drop] <;> omega
              change (if _ then _ else _) = if _ then _ else _
              rw [later]

theorem entriesRest_eq_of_lt {steps more : Nat} {lexemes : List Lexeme}
    (enough : lexemes.length < steps) (alsoEnough : lexemes.length < more) :
    entriesRest inner steps lexemes = entriesRest inner more lexemes := by
  induction steps generalizing more lexemes with
  | zero => omega
  | succ steps induction =>
      cases more with
      | zero => omega
      | succ more =>
          rw [entriesRest, entriesRest]
          cases readKey : inner lexemes with
          | error failure => rfl
          | ok key =>
              have shorter := length_lt_of_sound sound readKey
              change (expect .colon .missingEntryColon key.2 >>= _) =
                expect .colon .missingEntryColon key.2 >>= _
              cases passed : expect .colon .missingEntryColon key.2 with
              | error failure => rfl
              | ok rest =>
                  rcases cons_of_expect passed with ⟨colon, split, -⟩
                  rw [split, List.length_cons] at shorter
                  change (inner rest >>= _) = inner rest >>= _
                  cases readValue : inner rest with
                  | error failure => rfl
                  | ok value =>
                      have shorterStill := length_lt_of_sound sound readValue
                      have later : entriesRest inner steps (value.2.drop 1) =
                          entriesRest inner more (value.2.drop 1) := by
                        apply induction <;> rw [List.length_drop] <;> omega
                      change (if _ then _ else _) = if _ then _ else _
                      rw [later]

end Bounds

/-! ## Whole expressions -/

theorem sound_expressionWithin (levels budget : Nat) :
    Sound (expressionWithin levels budget) budget := by
  induction levels generalizing budget with
  | zero =>
      intro lexemes expr rest ok
      cases ok
  | succ levels induction =>
      intro lexemes expr rest ok
      cases budget with
      | zero => cases ok
      | succ budget => exact passes_of_conditional induction ok

theorem derives_of_parseLexemes {lexemes : List Lexeme} {expr : Expr}
    (ok : parseLexemes lexemes = .ok expr) :
    ∃ nesting ≤ maxDepth, Derives (.expression expr) (lexemes.map Lexeme.token) nesting := by
  rw [parseLexemes] at ok
  rcases ok_of_bind ok with ⟨⟨read, rest⟩, readOk, atEnd⟩
  rcases sound_expressionWithin maxDepth maxDepth _ _ _ readOk with
    ⟨passed, nesting, rfl, derives, fits⟩
  cases rest with
  | nil =>
      cases atEnd
      exact ⟨nesting, fits, by simpa using derives⟩
  | cons extra others => cases atEnd

end LiterateTest.Expression
