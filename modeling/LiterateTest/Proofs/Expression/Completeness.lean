import LiterateTest.Proofs.Expression.Grammar

/-! What the grammar derives is read, by any reader whose budget is as large as the nesting of the
derivation; with a smaller one, the reader says that the nesting is too deep. -/

namespace LiterateTest.Expression

/-! ## Budgets -/

/-- A result is the same as the next one if something fits into a budget, and otherwise a failure
for depth. -/
def LeadsTo {α : Type} (fits : Prop) (result next : Except ParseFailure α) : Prop :=
  (fits → result = next) ∧ (¬fits → ∃ unread, result = .error ⟨.tooDeep, unread⟩)

namespace LeadsTo

variable {α β : Type} {fits otherFits : Prop} {result next last : Except ParseFailure α}

theorem of_eq (isFit : fits) (same : result = next) : LeadsTo fits result next :=
  ⟨fun _ => same, fun notFit => absurd isFit notFit⟩

theorem of_tooDeep (notFit : ¬fits) {unread : List Lexeme}
    (failed : result = .error ⟨.tooDeep, unread⟩) : LeadsTo fits result next :=
  ⟨fun isFit => absurd isFit notFit, fun _ => ⟨unread, failed⟩⟩

theorem congr (leads : LeadsTo fits result next) (same : fits ↔ otherFits) :
    LeadsTo otherFits result next :=
  ⟨fun isFit => leads.1 (same.mpr isFit), fun notFit => leads.2 fun isFit => notFit (same.mp isFit)⟩

theorem trans (first : LeadsTo fits result next) (second : LeadsTo otherFits next last) :
    LeadsTo (fits ∧ otherFits) result last := by
  by_cases isFit : fits
  · rw [LeadsTo, first.1 isFit]
    exact second.congr (by simp [isFit])
  · rcases first.2 isFit with ⟨unread, failed⟩
    exact of_tooDeep (fun both => isFit both.1) failed

theorem eq (leads : LeadsTo fits result next) (same : next = last) : LeadsTo fits result last :=
  same ▸ leads

theorem bind {first : Except ParseFailure β} {value : β} {rest : β → Except ParseFailure α}
    (leads : LeadsTo fits first (.ok value)) : LeadsTo fits (first >>= rest) (rest value) := by
  by_cases isFit : fits
  · exact of_eq isFit (by rw [leads.1 isFit]; rfl)
  · rcases leads.2 isFit with ⟨unread, failed⟩
    exact of_tooDeep isFit (by rw [failed]; rfl)

end LeadsTo

/-! ## What comes next -/

@[simp] theorem nextToken?_cons (lexeme : Lexeme) (rest : List Lexeme) :
    nextToken? (lexeme :: rest) = some lexeme.token := rfl

theorem expect_cons {token : Token} {fault : ParseFault} {lexeme : Lexeme} {rest : List Lexeme}
    (same : lexeme.token = token) : expect token fault (lexeme :: rest) = .ok rest := by
  rw [expect, if_pos (by rw [nextToken?_cons, same])]
  rfl

def Follows (rank : Nat) (unread : List Lexeme) : Prop :=
  ∀ token, nextToken? unread = some token → rank < token.rank

theorem Follows.mono {rank tighter : Nat} {unread : List Lexeme} (follows : Follows rank unread)
    (le : tighter ≤ rank) : Follows tighter unread :=
  fun token next => Nat.lt_of_le_of_lt le (follows token next)

theorem follows_cons {rank : Nat} {lexeme : Lexeme} {rest : List Lexeme}
    (looser : rank < lexeme.token.rank) : Follows rank (lexeme :: rest) := by
  intro token next
  cases next
  exact looser

theorem follows_nil (rank : Nat) : Follows rank [] := by
  intro token next
  cases next

theorem Follows.operator?_eq_none {level : Level} {unread : List Lexeme}
    (follows : Follows level.rank unread) : (nextToken? unread).bind level.operator? = none := by
  cases next : nextToken? unread with
  | none => rfl
  | some token => exact level.operator?_eq_none (follows token next)

theorem Follows.postfixReader?_eq_none {unread : List Lexeme} (follows : Follows 1 unread) :
    postfixReader? (nextToken? unread) = none := by
  cases next : nextToken? unread with
  | none => rfl
  | some token =>
      have looser := follows token next
      cases token <;> first | rfl | simp [Token.rank] at looser

theorem Follows.next_ne {rank : Nat} {token : Token} {unread : List Lexeme}
    (follows : Follows rank unread) (tight : token.rank ≤ rank) :
    nextToken? unread ≠ some token := by
  intro next
  have looser := follows token next
  omega

def Spell (tokens : List Token) (lexemes : List Lexeme) : Prop :=
  lexemes.map Lexeme.token = tokens

theorem Spell.append {before after : List Token} {lexemes : List Lexeme}
    (spell : Spell (before ++ after) lexemes) :
    ∃ first second, lexemes = first ++ second ∧ Spell before first ∧ Spell after second :=
  List.map_eq_append_iff.mp spell

theorem Spell.cons {token : Token} {tokens : List Token} {lexemes : List Lexeme}
    (spell : Spell (token :: tokens) lexemes) :
    ∃ lexeme rest, lexemes = lexeme :: rest ∧ lexeme.token = token ∧ Spell tokens rest :=
  List.map_eq_cons_iff.mp spell

theorem Spell.nil {lexemes : List Lexeme} (spell : Spell [] lexemes) : lexemes = [] :=
  List.map_eq_nil_iff.mp spell

theorem Spell.single {token : Token} {lexemes : List Lexeme} (spell : Spell [token] lexemes) :
    ∃ lexeme, lexemes = [lexeme] ∧ lexeme.token = token := by
  rcases spell.cons with ⟨lexeme, rest, rfl, same, others⟩
  exact ⟨lexeme, by rw [others.nil], same⟩

/-! ## What is promised for each phrase -/

/-- What the reader of a phrase does with lexemes of the tokens, before unread ones. A chain is
followed by whatever else it has; the budget for that is smaller by the operators before. -/
def Complete (tokens : List Token) (nesting : Nat) : Phrase → Prop
  | .primary expr => ∀ levels budget lexemes unread, budget ≤ levels → Spell tokens lexemes →
      Follows 0 unread →
        LeadsTo (nesting ≤ budget)
          (primary (expressionWithin levels budget) (lexemes ++ unread)) (.ok (expr, unread))
  | .postfixed length expr => ∀ levels budget lexemes unread, budget ≤ levels →
      Spell tokens lexemes → Follows 0 unread →
        LeadsTo (nesting ≤ budget) (postfixed (expressionWithin levels) budget (lexemes ++ unread))
          (postfixRest (expressionWithin levels) (budget - length) expr unread)
  | .unary expr => ∀ levels budget lexemes unread, budget ≤ levels → Spell tokens lexemes →
      Follows 1 unread →
        LeadsTo (nesting ≤ budget) (unary (expressionWithin levels) budget (lexemes ++ unread))
          (.ok (expr, unread))
  | .operand level expr => ∀ levels budget lexemes unread, budget ≤ levels →
      Spell tokens lexemes → Follows (level.rank - 1) unread →
        LeadsTo (nesting ≤ budget)
          (level.readOperand (expressionWithin levels) budget (lexemes ++ unread))
          (.ok (expr, unread))
  | .chain level length expr => ∀ levels budget lexemes unread, budget ≤ levels →
      Spell tokens lexemes → Follows (level.rank - 1) unread →
        LeadsTo (nesting ≤ budget)
          (level.readChain (expressionWithin levels) budget (lexemes ++ unread))
          (chainRest level.operator? (level.readOperand (expressionWithin levels))
            (budget - length) expr unread)
  | .expression expr => ∀ levels budget lexemes unread, budget ≤ levels → Spell tokens lexemes →
      Follows 7 unread →
        LeadsTo (nesting ≤ budget) (expressionWithin levels budget (lexemes ++ unread))
          (.ok (expr, unread))
  | .items items => ∀ levels budget lexemes unread closer close steps, budget ≤ levels →
      Spell tokens lexemes → closer.token = close → close.closes = true → lexemes.length < steps →
        LeadsTo (nesting ≤ budget)
          (argumentsRest (expressionWithin levels budget) close steps (lexemes ++ closer :: unread))
          (.ok (items, unread))
  | .arguments items => ∀ levels budget lexemes unread closer close, budget ≤ levels →
      Spell tokens lexemes → closer.token = close → close.closes = true →
        LeadsTo (nesting ≤ budget)
          (arguments (expressionWithin levels budget) close (lexemes ++ closer :: unread))
          (.ok (items, unread))
  | .pairs pairs => ∀ levels budget lexemes unread closer steps, budget ≤ levels →
      Spell tokens lexemes → closer.token = .rightBrace → lexemes.length < steps →
        LeadsTo (nesting ≤ budget)
          (entriesRest (expressionWithin levels budget) steps (lexemes ++ closer :: unread))
          (.ok (pairs, unread))
  | .entries pairs => ∀ levels budget lexemes unread closer, budget ≤ levels →
      Spell tokens lexemes → closer.token = .rightBrace →
        LeadsTo (nesting ≤ budget)
          (entries (expressionWithin levels budget) (lexemes ++ closer :: unread))
          (.ok (pairs, unread))

theorem rank_of_closes {token : Token} (closes : token.closes = true) : token.rank = 8 := by
  cases token <;> first | rfl | cases closes

/-! ## Lists in brackets -/

section Lists

variable {levels budget : Nat} {lexemes unread : List Lexeme} {closer : Lexeme}

theorem follows_closer {close : Token} (same : closer.token = close)
    (closes : close.closes = true) : Follows 7 (closer :: unread) :=
  follows_cons (by rw [same, rank_of_closes closes]; omega)

theorem nextToken?_ne_closer {tokens : List Token} {close : Token} (starts : Starts tokens)
    (spell : Spell tokens lexemes) (closes : close.closes = true) :
    nextToken? (lexemes ++ unread) ≠ some close := by
  rcases starts with ⟨first, rest, rfl, opening⟩
  rcases spell.cons with ⟨lexeme, others, rfl, same, -⟩
  intro next
  cases next
  rw [same, opening] at closes
  cases closes

end Lists

section Items

variable {expr key value : Expr} {items : List Expr} {pairs : List (Expr × Expr)}
  {tokens before between after : List Token} {nesting within others : Nat}

theorem complete_lastItem (expression : Complete tokens nesting (.expression expr)) :
    Complete tokens nesting (.items [expr]) := by
  intro levels budget lexemes unread closer close steps small spell same closes enough
  cases steps with
  | zero => omega
  | succ steps =>
      rw [argumentsRest]
      refine (expression _ _ _ _ small spell (follows_closer same closes)).bind.eq ?_
      have noComma : close ≠ .comma := by
        rintro rfl
        cases closes
      simp [same, noComma]

theorem complete_moreItems (expression : Complete before nesting (.expression expr))
    (rest : Complete after within (.items items)) :
    Complete (before ++ .comma :: after) (max nesting within) (.items (expr :: items)) := by
  intro levels budget lexemes unread closer close steps small spell same closes enough
  rcases spell.append with ⟨first, second, rfl, firstSpell, secondSpell⟩
  rcases secondSpell.cons with ⟨comma, third, rfl, isComma, thirdSpell⟩
  rw [List.length_append, List.length_cons] at enough
  cases steps with
  | zero => omega
  | succ steps =>
      have follows : Follows 7 (comma :: (third ++ closer :: unread)) :=
        follows_cons (by rw [isComma]; decide)
      rw [argumentsRest, List.append_assoc]
      refine ((expression _ _ _ _ small firstSpell follows).bind.trans ?_).congr Nat.max_le.symm
      simp only [nextToken?_cons, isComma, if_true, List.drop_one, List.tail_cons]
      exact (rest _ _ _ unread closer close steps small thirdSpell same closes (by omega)).bind

theorem complete_noArguments : Complete [] 0 (.arguments []) := by
  intro levels budget lexemes unread closer close small spell same closes
  rw [spell.nil]
  exact .of_eq (Nat.zero_le budget) (by simp [arguments, same])

theorem complete_someArguments (starts : Starts tokens)
    (rest : Complete tokens nesting (.items items)) :
    Complete tokens nesting (.arguments items) := by
  intro levels budget lexemes unread closer close small spell same closes
  rw [arguments, if_neg (nextToken?_ne_closer starts spell closes)]
  exact rest _ _ _ _ _ _ _ small spell same closes (by rw [List.length_append]; omega)

theorem complete_lastPair (keyExpression : Complete before nesting (.expression key))
    (valueExpression : Complete after within (.expression value)) :
    Complete (before ++ .colon :: after) (max nesting within) (.pairs [(key, value)]) := by
  intro levels budget lexemes unread closer steps small spell closes enough
  rcases spell.append with ⟨first, second, rfl, firstSpell, secondSpell⟩
  rcases secondSpell.cons with ⟨colon, third, rfl, isColon, thirdSpell⟩
  cases steps with
  | zero => omega
  | succ steps =>
      have follows : Follows 7 (colon :: (third ++ closer :: unread)) :=
        follows_cons (by rw [isColon]; decide)
      have followsValue : Follows 7 (closer :: unread) := follows_closer closes rfl
      rw [entriesRest, List.append_assoc]
      refine ((keyExpression _ _ _ _ small firstSpell follows).bind.trans ?_).congr
        Nat.max_le.symm
      simp only [expect_cons isColon]
      refine (valueExpression _ _ _ _ small thirdSpell followsValue).bind.eq ?_
      simp [closes]

theorem complete_morePairs (keyExpression : Complete before nesting (.expression key))
    (valueExpression : Complete between within (.expression value))
    (rest : Complete after others (.pairs pairs)) :
    Complete (before ++ .colon :: (between ++ .comma :: after)) (max nesting (max within others))
      (.pairs ((key, value) :: pairs)) := by
  intro levels budget lexemes unread closer steps small spell closes enough
  rcases spell.append with ⟨first, second, rfl, firstSpell, secondSpell⟩
  rcases secondSpell.cons with ⟨colon, third, rfl, isColon, thirdSpell⟩
  rcases thirdSpell.append with ⟨fourth, fifth, rfl, fourthSpell, fifthSpell⟩
  rcases fifthSpell.cons with ⟨comma, sixth, rfl, isComma, sixthSpell⟩
  simp only [List.length_append, List.length_cons] at enough
  cases steps with
  | zero => omega
  | succ steps =>
      have follows : Follows 7 (colon :: (fourth ++ (comma :: (sixth ++ closer :: unread)))) :=
        follows_cons (by rw [isColon]; decide)
      have followsValue : Follows 7 (comma :: (sixth ++ closer :: unread)) :=
        follows_cons (by rw [isComma]; decide)
      simp only [entriesRest, List.append_assoc, List.cons_append]
      refine ((keyExpression _ _ _ _ small firstSpell follows).bind.trans ?_).congr
        Nat.max_le.symm
      simp only [expect_cons isColon]
      refine ((valueExpression _ _ _ _ small fourthSpell followsValue).bind.trans ?_).congr
        Nat.max_le.symm
      simp only [nextToken?_cons, isComma, if_true, List.drop_one, List.tail_cons]
      exact (rest _ _ _ unread closer steps small sixthSpell closes (by omega)).bind

theorem complete_noEntries : Complete [] 0 (.entries []) := by
  intro levels budget lexemes unread closer small spell closes
  rw [spell.nil]
  exact .of_eq (Nat.zero_le budget) (by simp [entries, closes])

theorem complete_someEntries (starts : Starts tokens)
    (rest : Complete tokens nesting (.pairs pairs)) :
    Complete tokens nesting (.entries pairs) := by
  intro levels budget lexemes unread closer small spell closes
  rw [entries, if_neg (nextToken?_ne_closer starts spell rfl)]
  exact rest _ _ _ _ _ _ small spell closes (by rw [List.length_append]; omega)

end Items

/-! ## Primary expressions -/

theorem primary_of_literal? {inner : Reader Expr} {lexeme : Lexeme} {rest : List Lexeme}
    {expr : Expr} (found : lexeme.token.literal? = some expr) :
    primary inner (lexeme :: rest) = .ok (expr, rest) := by
  rw [primary]
  cases token : lexeme.token with
  | int value =>
      rw [token, Token.literal?_int] at found
      cases found
      rfl
  | float value =>
      rw [token] at found
      rcases Option.map_eq_some_iff.mp found with ⟨number, finite, rfl⟩
      change (literalFloat value rest >>= _) = _
      rw [literalFloat, finite]
      rfl
  | string | trueWord | falseWord | nullWord =>
      rw [token] at found
      cases found
      rfl
  | _ =>
      rw [token] at found
      cases found

section Primary

variable {expr : Expr} {items : List Expr} {pairs : List (Expr × Expr)} {inside : List Token}
  {nesting : Nat}

theorem complete_literal {token : Token} (found : token.literal? = some expr) :
    Complete [token] 0 (.primary expr) := by
  intro levels budget lexemes unread small spell follows
  rcases spell.single with ⟨lexeme, rfl, rfl⟩
  exact .of_eq (Nat.zero_le budget) (primary_of_literal? found)

theorem complete_reference (name : String) :
    Complete [.word name] 0 (.primary (.reference name)) := by
  intro levels budget lexemes unread small spell follows
  rcases spell.single with ⟨⟨token, offset⟩, rfl, rfl⟩
  have noCall : nextToken? unread ≠ some .leftParen := follows.next_ne (by decide)
  exact .of_eq (Nat.zero_le budget) (by simp [primary, noCall])

theorem Spell.brackets {opener closer : Token} {lexemes : List Lexeme}
    (spell : Spell (opener :: (inside ++ [closer])) lexemes) :
    ∃ first between last, lexemes = first :: (between ++ [last]) ∧ first.token = opener ∧
      Spell inside between ∧ last.token = closer := by
  rcases spell.cons with ⟨first, rest, rfl, isOpener, restSpell⟩
  rcases restSpell.append with ⟨between, others, rfl, insideSpell, lastSpell⟩
  rcases lastSpell.single with ⟨last, rfl, isCloser⟩
  exact ⟨first, between, last, rfl, isOpener, insideSpell, isCloser⟩

theorem complete_call {name : String} (arguments : Complete inside nesting (.arguments items)) :
    Complete (.word name :: .leftParen :: (inside ++ [.rightParen])) nesting
      (.primary (.call name items)) := by
  intro levels budget lexemes unread small spell follows
  rcases spell.cons with ⟨⟨token, offset⟩, rest, rfl, rfl, restSpell⟩
  rcases restSpell.brackets with ⟨opener, between, closer, rfl, opens, insideSpell, closes⟩
  have leads := arguments levels budget between unread closer _ small insideSpell closes rfl
  simpa [primary, opens] using leads.bind

theorem complete_group (expression : Complete inside nesting (.expression expr)) :
    Complete (.leftParen :: (inside ++ [.rightParen])) nesting (.primary expr) := by
  intro levels budget lexemes unread small spell follows
  rcases spell.brackets with ⟨⟨token, offset⟩, between, closer, rfl, rfl, insideSpell, closes⟩
  have followsInside : Follows 7 (closer :: unread) := follows_closer closes rfl
  rw [List.cons_append, List.append_assoc]
  refine (expression levels budget between _ small insideSpell followsInside).bind.eq ?_
  simp only [expect_cons closes]
  rfl

theorem complete_list (arguments : Complete inside nesting (.arguments items)) :
    Complete (.leftBracket :: (inside ++ [.rightBracket])) nesting (.primary (.list items)) := by
  intro levels budget lexemes unread small spell follows
  rcases spell.brackets with ⟨⟨token, offset⟩, between, closer, rfl, rfl, insideSpell, closes⟩
  have leads := arguments levels budget between unread closer _ small insideSpell closes rfl
  rw [List.cons_append, List.append_assoc]
  exact leads.bind

theorem complete_map (entries : Complete inside nesting (.entries pairs)) :
    Complete (.leftBrace :: (inside ++ [.rightBrace])) nesting (.primary (.map pairs)) := by
  intro levels budget lexemes unread small spell follows
  rcases spell.brackets with ⟨⟨token, offset⟩, between, closer, rfl, rfl, insideSpell, closes⟩
  rw [List.cons_append, List.append_assoc]
  exact (entries levels budget between unread closer small insideSpell closes).bind

end Primary

/-! ## What follows a primary expression -/

def CompleteStep (target longer : Expr) (tokens : List Token) (nesting : Nat) : Prop :=
  ∀ levels budget lexemes unread, budget ≤ levels → Spell tokens lexemes → Follows 0 unread →
    ∃ reader first rest, lexemes ++ unread = first :: rest ∧ 0 < first.token.rank ∧
      postfixReader? (some first.token) = some reader ∧
      LeadsTo (nesting ≤ budget) (reader (expressionWithin levels budget) target rest)
        (.ok (longer, unread))

section Postfixed

variable {length : Nat} {expr target longer body key : Expr} {items : List Expr}
  {tokens before after inside : List Token} {nesting within : Nat} {name : String}

theorem complete_bare (primary : Complete tokens nesting (.primary expr)) :
    Complete tokens nesting (.postfixed 0 expr) := by
  intro levels budget lexemes unread small spell follows
  rw [postfixed]
  exact (primary levels budget lexemes unread small spell follows).bind

/-- One selection or subscript more takes one from the budget, for what is in its brackets and for
all that follows. -/
theorem leadsTo_postfixRest (step : CompleteStep target longer after within)
    {levels remaining : Nat} {lexemes unread : List Lexeme} (small : remaining ≤ levels)
    (spell : Spell after lexemes) (follows : Follows 0 unread) :
    LeadsTo (within + 1 ≤ remaining)
      (postfixRest (expressionWithin levels) remaining target (lexemes ++ unread))
      (postfixRest (expressionWithin levels) (remaining - 1) longer unread) := by
  rcases step levels (remaining - 1) lexemes unread (by omega) spell follows with
    ⟨reader, next, rest, split, loose, isReader, leads⟩
  rw [split, postfixRest, nextToken?_cons, isReader]
  cases remaining with
  | zero => exact .of_tooDeep (by omega) rfl
  | succ remaining =>
      refine LeadsTo.congr ?_ Nat.succ_le_succ_iff.symm
      exact leads.bind

theorem complete_longer (postfixed : Complete before nesting (.postfixed length target))
    (step : CompleteStep target longer after within) :
    Complete (before ++ after) (max nesting (within + length + 1))
      (.postfixed (length + 1) longer) := by
  intro levels budget lexemes unread small spell follows
  rcases spell.append with ⟨first, second, rfl, firstSpell, secondSpell⟩
  rcases step levels budget second unread small secondSpell follows with
    ⟨reader, next, rest, split, loose, isReader, leads⟩
  have followsFirst : Follows 0 (second ++ unread) := split ▸ follows_cons loose
  rw [List.append_assoc]
  refine ((postfixed levels budget first _ small firstSpell followsFirst).trans
    (leadsTo_postfixRest step (Nat.le_trans (Nat.sub_le budget length) small) secondSpell
      follows)).congr ?_
  omega

theorem completeStep_member (name : String) :
    CompleteStep target (.member target name) [.dot, .word name] 0 := by
  intro levels budget lexemes unread small spell follows
  rcases spell.cons with ⟨dot, rest, rfl, isDot, restSpell⟩
  rcases restSpell.single with ⟨⟨word, offset⟩, rfl, rfl⟩
  have noCall : nextToken? unread ≠ some .leftParen := follows.next_ne (by decide)
  refine ⟨selection, dot, _, rfl, by rw [isDot]; decide, by rw [isDot]; rfl, ?_⟩
  exact .of_eq (Nat.zero_le budget) (by simp [selection, noCall])

theorem completeStep_method (plain : Quantifier.ofMethod? name = none)
    (arguments : Complete inside within (.arguments items)) :
    CompleteStep target (.method target name items)
      (.dot :: .word name :: .leftParen :: (inside ++ [.rightParen])) within := by
  intro levels budget lexemes unread small spell follows
  rcases spell.cons with ⟨dot, rest, rfl, isDot, restSpell⟩
  rcases restSpell.cons with ⟨⟨word, offset⟩, others, rfl, rfl, othersSpell⟩
  rcases othersSpell.brackets with ⟨opener, between, closer, rfl, opens, insideSpell, closes⟩
  refine ⟨selection, dot, _, rfl, by rw [isDot]; decide, by rw [isDot]; rfl, ?_⟩
  have leads := arguments levels budget between unread closer _ small insideSpell closes rfl
  simpa [selection, methodCall, opens, plain] using leads.bind

theorem completeStep_quantified {quantifier : Quantifier} (loopVariable : String)
    (isQuantifier : Quantifier.ofMethod? name = some quantifier)
    (expression : Complete inside within (.expression body)) :
    CompleteStep target (.quantified target quantifier loopVariable body)
      (.dot :: .word name :: .leftParen :: .word loopVariable :: .comma ::
        (inside ++ [.rightParen])) within := by
  intro levels budget lexemes unread small spell follows
  rcases spell.cons with ⟨dot, rest, rfl, isDot, restSpell⟩
  rcases restSpell.cons with ⟨⟨word, offset⟩, others, rfl, rfl, othersSpell⟩
  rcases othersSpell.cons with ⟨opener, third, rfl, opens, thirdSpell⟩
  rcases thirdSpell.cons with ⟨⟨loopWord, loopOffset⟩, fourth, rfl, rfl, fourthSpell⟩
  rcases fourthSpell.brackets with ⟨comma, between, closer, rfl, isComma, insideSpell, closes⟩
  have followsInside : Follows 7 (closer :: unread) := follows_closer closes rfl
  have loop : LeadsTo (within ≤ budget)
      (loopBody (expressionWithin levels budget) name
        (⟨.word loopVariable, loopOffset⟩ :: comma :: (between ++ closer :: unread)))
      (.ok ((loopVariable, body), unread)) := by
    rw [loopBody]
    simp only [expect_cons isComma]
    refine (expression levels budget between _ small insideSpell followsInside).bind.eq ?_
    simp only [expect_cons closes]
    rfl
  refine ⟨selection, dot, ⟨.word name, offset⟩ :: opener :: ⟨.word loopVariable, loopOffset⟩ ::
    comma :: (between ++ closer :: unread), by simp, by rw [isDot]; decide, by rw [isDot]; rfl, ?_⟩
  simpa [selection, methodCall, opens, isQuantifier] using loop.bind

theorem completeStep_index (expression : Complete inside within (.expression key)) :
    CompleteStep target (.index target key) (.leftBracket :: (inside ++ [.rightBracket]))
      within := by
  intro levels budget lexemes unread small spell follows
  rcases spell.brackets with ⟨opener, between, closer, rfl, opens, insideSpell, closes⟩
  have followsInside : Follows 7 (closer :: unread) := follows_closer closes rfl
  refine ⟨subscript, opener, between ++ closer :: unread, by simp, by rw [opens]; decide,
    by rw [opens]; rfl, ?_⟩
  rw [subscript]
  refine (expression levels budget between _ small insideSpell followsInside).bind.eq ?_
  simp only [expect_cons closes]
  rfl

end Postfixed

/-! ## Operators -/

theorem postfixRest_eq_ok {inner : Nat → Reader Expr} {budget : Nat} {target : Expr}
    {unread : List Lexeme} (follows : Follows 1 unread) :
    postfixRest inner budget target unread = .ok (target, unread) := by
  rw [postfixRest, follows.postfixReader?_eq_none]

theorem chainRest_eq_ok {level : Level} {operand : Nat → Reader Expr} {budget : Nat} {left : Expr}
    {unread : List Lexeme} (follows : Follows level.rank unread) :
    chainRest level.operator? operand budget left unread = .ok (left, unread) := by
  rw [chainRest, follows.operator?_eq_none]

section Operators

variable {level : Level} {length : Nat} {expr left right : Expr} {tokens before after : List Token}
  {nesting within : Nat}

theorem complete_plain
    (unsigned : ∃ first rest, tokens = first :: rest ∧ unaryOperator? first = none)
    (postfixed : Complete tokens nesting (.postfixed length expr)) :
    Complete tokens nesting (.unary expr) := by
  intro levels budget lexemes unread small spell follows
  have leads := postfixed levels budget lexemes unread small spell (follows.mono (by omega))
  rw [postfixRest_eq_ok follows] at leads
  rcases unsigned with ⟨first, rest, rfl, noOperator⟩
  rcases spell.cons with ⟨lexeme, others, rfl, rfl, othersSpell⟩
  rw [unary, List.cons_append, nextToken?_cons, Option.bind_some, noOperator]
  exact leads

theorem complete_unary {token : Token} {op : UnaryOp} (isOp : unaryOperator? token = some op)
    (operand : Complete tokens nesting (.unary expr)) :
    Complete (token :: tokens) (nesting + 1) (.unary (.unary op expr)) := by
  intro levels budget lexemes unread small spell follows
  rcases spell.cons with ⟨lexeme, rest, rfl, rfl, restSpell⟩
  rw [unary, List.cons_append, nextToken?_cons, Option.bind_some, isOp]
  cases budget with
  | zero => exact .of_tooDeep (by omega) rfl
  | succ budget =>
      refine LeadsTo.congr ?_ Nat.succ_le_succ_iff.symm
      exact (operand levels budget rest unread (by omega) restSpell follows).bind

theorem complete_factor (unary : Complete tokens nesting (.unary expr)) :
    Complete tokens nesting (.operand .product expr) :=
  unary

theorem complete_tighter {tighter : Level} (isTighter : level.tighter? = some tighter)
    (chain : Complete tokens nesting (.chain tighter length expr)) :
    Complete tokens nesting (.operand level expr) := by
  intro levels budget lexemes unread small spell follows
  rw [Level.rank_of_tighter isTighter, Nat.add_sub_cancel] at follows
  have leads := chain levels budget lexemes unread small spell
    (follows.mono (Nat.sub_le tighter.rank 1))
  rw [chainRest_eq_ok follows] at leads
  rw [Level.readOperand_of_tighter _ isTighter]
  exact leads

theorem complete_first (operand : Complete tokens nesting (.operand level expr)) :
    Complete tokens nesting (.chain level 0 expr) := by
  intro levels budget lexemes unread small spell follows
  rw [Level.readChain, chain]
  exact (operand levels budget lexemes unread small spell follows).bind

theorem leadsTo_chainRest {token : Token} {op : BinaryOp} (isOp : level.operator? token = some op)
    (operand : Complete after within (.operand level right)) {levels remaining : Nat}
    {lexemes unread : List Lexeme} (small : remaining ≤ levels)
    (spell : Spell (token :: after) lexemes) (follows : Follows (level.rank - 1) unread) :
    LeadsTo (within + 1 ≤ remaining)
      (chainRest level.operator? (level.readOperand (expressionWithin levels)) remaining left
        (lexemes ++ unread))
      (chainRest level.operator? (level.readOperand (expressionWithin levels)) (remaining - 1)
        (.binary op left right) unread) := by
  rcases spell.cons with ⟨lexeme, rest, rfl, rfl, restSpell⟩
  rw [chainRest, List.cons_append, nextToken?_cons, Option.bind_some, isOp]
  cases remaining with
  | zero => exact .of_tooDeep (by omega) rfl
  | succ remaining =>
      refine LeadsTo.congr ?_ Nat.succ_le_succ_iff.symm
      exact (operand levels remaining rest unread (by omega) restSpell follows).bind

theorem complete_binary {token : Token} {op : BinaryOp} (isOp : level.operator? token = some op)
    (chain : Complete before nesting (.chain level length left))
    (operand : Complete after within (.operand level right)) :
    Complete (before ++ token :: after) (max nesting (within + length + 1))
      (.chain level (length + 1) (.binary op left right)) := by
  intro levels budget lexemes unread small spell follows
  rcases spell.append with ⟨first, second, rfl, firstSpell, secondSpell⟩
  have followsFirst : Follows (level.rank - 1) (second ++ unread) := by
    rcases secondSpell.cons with ⟨lexeme, rest, rfl, rfl, -⟩
    apply follows_cons
    rw [Level.rank_of_operator? isOp]
    cases level <;> decide
  rw [List.append_assoc]
  refine ((chain levels budget first _ small firstSpell followsFirst).trans
    (leadsTo_chainRest isOp operand (Nat.le_trans (Nat.sub_le budget length) small) secondSpell
      follows)).congr ?_
  omega

theorem complete_disjunction (chain : Complete tokens nesting (.chain .disjunction length expr))
    {levels budget : Nat} {lexemes unread : List Lexeme} (small : budget ≤ levels)
    (spell : Spell tokens lexemes) (follows : Follows Level.disjunction.rank unread) :
    LeadsTo (nesting ≤ budget) (disjunction (expressionWithin levels) budget (lexemes ++ unread))
      (.ok (expr, unread)) := by
  have leads := chain levels budget lexemes unread small spell (follows.mono (by decide))
  rwa [chainRest_eq_ok follows] at leads

end Operators

/-! ## Expressions -/

section Expressions

variable {conditionLength trueLength length : Nat} {expr condition whenTrue whenFalse : Expr}
  {tokens before between after : List Token} {nesting trueNesting falseNesting : Nat}

theorem leadsTo_expressionWithin {levels budget : Nat} {lexemes : List Lexeme}
    {result : Except ParseFailure (Expr × List Lexeme)} (small : budget ≤ levels)
    (inside : ∀ levels budget, budget ≤ levels → LeadsTo (nesting ≤ budget)
      (conditional (expressionWithin levels) budget lexemes) result) :
    LeadsTo (nesting + 1 ≤ budget) (expressionWithin levels budget lexemes) result := by
  cases levels with
  | zero => exact .of_tooDeep (by omega) rfl
  | succ levels =>
      cases budget with
      | zero => exact .of_tooDeep (by omega) rfl
      | succ budget =>
          rw [expressionWithin]
          exact (inside levels budget (by omega)).congr Nat.succ_le_succ_iff.symm

theorem complete_unconditional (chain : Complete tokens nesting (.chain .disjunction length expr)) :
    Complete tokens (nesting + 1) (.expression expr) := by
  intro levels budget lexemes unread small spell follows
  apply leadsTo_expressionWithin small
  intro levels budget small
  have noQuestion : nextToken? unread ≠ some .question := follows.next_ne (by decide)
  rw [conditional]
  refine (complete_disjunction chain small spell (follows.mono (by decide))).bind.eq ?_
  simp [noQuestion]

theorem complete_conditional
    (conditionChain : Complete before nesting (.chain .disjunction conditionLength condition))
    (trueChain : Complete between trueNesting (.chain .disjunction trueLength whenTrue))
    (expression : Complete after falseNesting (.expression whenFalse)) :
    Complete (before ++ .question :: (between ++ .colon :: after))
      (max nesting (max trueNesting falseNesting) + 1)
      (.expression (.conditional condition whenTrue whenFalse)) := by
  intro levels budget lexemes unread small spell follows
  rcases spell.append with ⟨first, second, rfl, firstSpell, secondSpell⟩
  rcases secondSpell.cons with ⟨question, third, rfl, isQuestion, thirdSpell⟩
  rcases thirdSpell.append with ⟨fourth, fifth, rfl, fourthSpell, fifthSpell⟩
  rcases fifthSpell.cons with ⟨colon, sixth, rfl, isColon, sixthSpell⟩
  have followsFirst : Follows Level.disjunction.rank
      (question :: (fourth ++ colon :: (sixth ++ unread))) :=
    follows_cons (by rw [isQuestion]; decide)
  have followsTrue : Follows Level.disjunction.rank (colon :: (sixth ++ unread)) :=
    follows_cons (by rw [isColon]; decide)
  apply leadsTo_expressionWithin small
  intro levels budget small
  simp only [conditional, List.append_assoc, List.cons_append]
  refine ((complete_disjunction conditionChain small firstSpell followsFirst).bind.trans
    ?_).congr Nat.max_le.symm
  simp only [nextToken?_cons, isQuestion, if_true, List.drop_one, List.tail_cons]
  refine ((complete_disjunction trueChain small fourthSpell followsTrue).bind.trans
    ?_).congr Nat.max_le.symm
  simp only [expect_cons isColon]
  exact (expression levels budget sixth unread small sixthSpell follows).bind

end Expressions

/-! ## All phrases -/

theorem Derives.complete {phrase : Phrase} {tokens : List Token} {nesting : Nat}
    (derives : Derives phrase tokens nesting) : Complete tokens nesting phrase := by
  induction derives with
  | literal found => exact complete_literal found
  | reference name => exact complete_reference name
  | call _ arguments => exact complete_call arguments
  | group _ expression => exact complete_group expression
  | list _ arguments => exact complete_list arguments
  | map _ entries => exact complete_map entries
  | bare _ primary => exact complete_bare primary
  | member name _ postfixed =>
      have longer := complete_longer postfixed (completeStep_member name)
      rwa [Nat.zero_add] at longer
  | method plain _ _ postfixed arguments =>
      exact complete_longer postfixed (completeStep_method plain arguments)
  | quantified loopVariable isQuantifier _ _ postfixed expression =>
      exact complete_longer postfixed
        (completeStep_quantified loopVariable isQuantifier expression)
  | index _ _ postfixed expression =>
      exact complete_longer postfixed (completeStep_index expression)
  | plain derives postfixed => exact complete_plain (derives.unsigned rfl) postfixed
  | unary isOp _ operand => exact complete_unary isOp operand
  | factor _ unary => exact complete_factor unary
  | tighter isTighter _ chain => exact complete_tighter isTighter chain
  | first _ operand => exact complete_first operand
  | binary isOp _ _ chain operand => exact complete_binary isOp chain operand
  | unconditional _ chain => exact complete_unconditional chain
  | conditional _ _ _ condition whenTrue whenFalse =>
      exact complete_conditional condition whenTrue whenFalse
  | lastItem _ expression => exact complete_lastItem expression
  | moreItems _ _ expression rest => exact complete_moreItems expression rest
  | noArguments => exact complete_noArguments
  | someArguments derives rest =>
      exact complete_someArguments (by simpa using derives.starts) rest
  | lastPair _ _ key value => exact complete_lastPair key value
  | morePairs _ _ _ key value rest => exact complete_morePairs key value rest
  | noEntries => exact complete_noEntries
  | someEntries derives rest => exact complete_someEntries (by simpa using derives.starts) rest

theorem parseLexemes_of_derives {lexemes : List Lexeme} {expr : Expr} {nesting : Nat}
    (derives : Derives (.expression expr) (lexemes.map Lexeme.token) nesting) :
    LeadsTo (nesting ≤ maxDepth) (parseLexemes lexemes) (.ok expr) := by
  have leads := derives.complete maxDepth maxDepth lexemes [] (Nat.le_refl _) rfl (follows_nil 7)
  rw [List.append_nil] at leads
  exact leads.bind

end LiterateTest.Expression
