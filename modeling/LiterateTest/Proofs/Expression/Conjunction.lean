import LiterateTest.Expression.Program
import LiterateTest.Proofs.Expression.Completeness
import LiterateTest.Proofs.Expression.Lexing
import LiterateTest.Proofs.Expression.Outside
import LiterateTest.Proofs.Expression.Soundness

/-! Texts that are joined to conjunctions: such a text is true if all of its parts are, as long as
the parts are not nested too deeply behind each other. -/

namespace LiterateTest.Expression

/-! ## Expressions that mean the same -/

/-- Both have the same value wherever they are evaluated, and the same free variables. -/
structure Alike (left right : Expr) : Prop where
  value : ∀ scope, evaluateIn scope left = evaluateIn scope right
  names : ∀ bound, freeVariables bound left = freeVariables bound right

theorem evaluateIn_and (scope : Scope) (left right : Expr) :
    evaluateIn scope (.binary .and left right) =
      (do
        let leftValue ← evaluateIn scope left
        let holds ← logicalOperand .and leftValue
        if holds then
          let rightValue ← evaluateIn scope right
          let value ← logicalOperand .and rightValue
          .ok (.bool value)
        else .ok (.bool false)) := by
  rw [evaluateIn]

theorem evaluateIn_and_of_bool {scope : Scope} {left right : Expr} {first second : Bool}
    (leftValue : evaluateIn scope left = .ok (.bool first))
    (rightValue : evaluateIn scope right = .ok (.bool second)) :
    evaluateIn scope (.binary .and left right) = .ok (.bool (first && second)) := by
  rw [evaluateIn_and, leftValue, rightValue]
  cases first <;> rfl

theorem alike_and_assoc (first second third : Expr) :
    Alike (.binary .and (.binary .and first second) third)
      (.binary .and first (.binary .and second third)) := by
  constructor
  · intro scope
    rw [evaluateIn_and, evaluateIn_and, evaluateIn_and, evaluateIn_and]
    cases evaluateIn scope first with
    | error fault => rfl
    | ok firstValue =>
        cases firstValue with
        | bool holds =>
            cases holds with
            | false => rfl
            | true =>
                cases evaluateIn scope second with
                | error fault => rfl
                | ok secondValue =>
                    cases secondValue with
                    | bool both =>
                        cases both with
                        | false => rfl
                        | true =>
                            cases evaluateIn scope third with
                            | error fault => rfl
                            | ok thirdValue => cases thirdValue <;> rfl
                    | _ => rfl
        | _ => rfl
  · intro bound
    simp [freeVariables]

theorem Alike.trans {first second third : Expr} (left : Alike first second)
    (right : Alike second third) : Alike first third :=
  ⟨fun scope => (left.value scope).trans (right.value scope),
    fun bound => (left.names bound).trans (right.names bound)⟩

theorem Alike.refl (expr : Expr) : Alike expr expr := ⟨fun _ => rfl, fun _ => rfl⟩

theorem Alike.and {left right : Expr} (alike : Alike left right) (other : Expr) :
    Alike (.binary .and left other) (.binary .and right other) := by
  constructor
  · intro scope
    rw [evaluateIn_and, evaluateIn_and, alike.value]
  · intro bound
    rw [freeVariables, freeVariables, alike.names]

/-! ## Chains behind each other -/

theorem Derives.cast {phrase : Phrase} {tokens same : List Token} {nesting equal : Nat}
    (derives : Derives phrase tokens nesting) (sameTokens : tokens = same)
    (sameNesting : nesting = equal) : Derives phrase same equal :=
  sameTokens ▸ sameNesting ▸ derives

theorem Derives.operand {expr : Expr} {tokens : List Token} {nesting : Nat}
    (unary : Derives (.unary expr) tokens nesting) (level : Level) :
    Derives (.operand level expr) tokens nesting := by
  have product := unary.factor
  have sum : Derives (.operand .sum expr) tokens nesting := .tighter rfl product.first
  have relation : Derives (.operand .relation expr) tokens nesting := .tighter rfl sum.first
  have conjunction : Derives (.operand .conjunction expr) tokens nesting :=
    .tighter rfl relation.first
  cases level with
  | product => exact product
  | sum => exact sum
  | relation => exact relation
  | conjunction => exact conjunction
  | disjunction => exact .tighter rfl conjunction.first

theorem Derives.whole {expr : Expr} {tokens : List Token} {nesting : Nat}
    (unary : Derives (.unary expr) tokens nesting) :
    Derives (.expression expr) tokens (nesting + 1) :=
  .unconditional (unary.operand .disjunction).first

theorem derives_literal {token : Token} {expr : Expr} (found : token.literal? = some expr) :
    Derives (.expression expr) [token] 1 :=
  (Derives.plain (.bare (.literal found))).whole

/-- Two conjunctions with an operator between them are one. It is read from the left, so that its
operands are grouped in another way. -/
theorem Derives.conjoin {length more : Nat} {left right : Expr} {before after : List Token}
    {nesting within : Nat} (first : Derives (.chain .conjunction length left) before nesting)
    (second : Derives (.chain .conjunction more right) after within) :
    ∃ expr, Alike expr (.binary .and left right) ∧
      Derives (.chain .conjunction (length + more + 1) expr) (before ++ .andAnd :: after)
        (max nesting (within + length + 1)) := by
  induction more generalizing right after within with
  | zero =>
      cases second with
      | first operand => exact ⟨_, .refl _, .binary rfl first operand⟩
  | succ more induction =>
      cases second with
      | binary isOp chain operand =>
          rcases eq_andAnd isOp with ⟨rfl, rfl⟩
          rcases induction chain with ⟨expr, alike, derives⟩
          refine ⟨_, (alike.and _).trans (alike_and_assoc _ _ _), ?_⟩
          exact (Derives.binary isOp derives operand).cast (by simp) (by omega)

/-! ## Sources -/

def parsesWithin (limit : Nat) (source : List Char) : Bool :=
  match scan 0 0 source with
  | .error _ => false
  | .ok lexemes =>
      match expressionWithin limit limit lexemes with
      | .ok (_, []) => true
      | _ => false

def operandCount (source : List Char) : Nat :=
  match scan 0 0 source with
  | .error _ => 1
  | .ok lexemes => (outside (lexemes.map Lexeme.token)).count .andAnd + 1

/-- Whether parts of a conjunction can be read one after the other, with so many operands before
them: each operand takes one from the limit of nesting for those behind it. -/
def fitsAfter : (operands : Nat) → List (List Char) → Bool
  | _, [] => true
  | operands, part :: rest =>
      parsesWithin (maxDepth - operands) part && fitsAfter (operands + operandCount part) rest

def isBareConditional (source : List Char) : Bool :=
  match scan 0 0 source with
  | .error _ => false
  | .ok lexemes => (outside (lexemes.map Lexeme.token)).contains .question

example : isBareConditional "a ? b : c".toList = true := by rfl
example : isBareConditional "(a ? b : c) == d".toList = false := by rfl

def isLoose (source : List Char) : Bool :=
  match scan 0 0 source with
  | .error _ => false
  | .ok lexemes =>
      let operators := outside (lexemes.map Lexeme.token)
      operators.contains .orOr || operators.contains .question

example : isLoose "a && b || c".toList = true := by rfl
example : isLoose "a && (b || c)".toList = false := by rfl

def evaluateDeclared (bindings : Record Json) (expr : Expr) : Except Fault Json :=
  match undeclared? (Schema.ofBindings bindings) expr with
  | some name => .error (.undeclared name)
  | none => evaluate bindings expr

structure Evaluates (bindings : Record Json) (source : List Char) (expr : Expr)
    (tokens : List Token) (value : Json) : Prop where
  hasTokens : HasTokens source tokens
  declared : undeclared? (Schema.ofBindings bindings) expr = none
  value : evaluate bindings expr = .ok value

section Sources

variable {bindings : Record Json} {source : List Char} {expr : Expr} {tokens : List Token}
  {value : Json} {nesting : Nat}

theorem parse_ofList (source : List Char) :
    parse (String.ofList source) =
      match scan 0 0 source with
      | .error (offset, fault) => .error (.lex offset fault)
      | .ok lexemes =>
          match parseLexemes lexemes with
          | .ok expr => .ok expr
          | .error failure => .error
              (.parse (failure.offset (String.ofList source).utf8ByteSize) failure.fault) := by
  rw [parse, lexemes, tokenize, String.toList_ofList]
  cases scan 0 0 source <;> rfl

theorem evaluateSource_eq (bindings : Record Json) (source : String) :
    evaluateSource bindings source = parse source >>= evaluateDeclared bindings := by
  rw [evaluateSource, compile]
  cases parse source with
  | error fault => rfl
  | ok expr =>
      cases none : undeclared? (Schema.ofBindings bindings) expr <;>
        simp [Bind.bind, Except.bind, evaluateDeclared, none, Program.run]

theorem derives_of_evaluateSource
    (ok : evaluateSource bindings (String.ofList source) = .ok value) :
    ∃ expr tokens nesting, Derives (.expression expr) tokens nesting ∧
      Evaluates bindings source expr tokens value := by
  rw [evaluateSource_eq] at ok
  rcases ok_of_bind ok with ⟨expr, parsed, evaluated⟩
  rw [parse_ofList] at parsed
  split at parsed
  · cases parsed
  · next lexemes scanned =>
      split at parsed
      · next same parsedLexemes =>
          cases parsed
          rw [evaluateDeclared] at evaluated
          split at evaluated
          · cases evaluated
          · next declared =>
              rcases derives_of_parseLexemes parsedLexemes with ⟨nesting, -, derives⟩
              exact ⟨expr, _, nesting, derives, hasTokens_of_scan scanned, declared, evaluated⟩
      · cases parsed

theorem evaluateSource_of_derives (derives : Derives (.expression expr) tokens nesting)
    (evaluates : Evaluates bindings source expr tokens value) :
    (nesting ≤ maxDepth → evaluateSource bindings (String.ofList source) = .ok value) ∧
      (¬nesting ≤ maxDepth → ∃ offset,
        evaluateSource bindings (String.ofList source) = .error (.parse offset .tooDeep)) := by
  rcases evaluates.hasTokens 0 with ⟨lexemes, scanned, rfl⟩
  have leads := parseLexemes_of_derives derives
  rw [evaluateSource_eq, parse_ofList, scanned]
  constructor
  · intro fits
    simp only [leads.1 fits]
    change evaluateDeclared bindings expr = _
    rw [evaluateDeclared, evaluates.declared]
    exact evaluates.value
  · intro tooDeep
    rcases leads.2 tooDeep with ⟨unread, failed⟩
    simp only [failed]
    exact ⟨_, rfl⟩

theorem parsesWithin_iff (derives : Derives (.expression expr) tokens nesting)
    (hasTokens : HasTokens source tokens) {limit : Nat} :
    parsesWithin limit source = true ↔ nesting ≤ limit := by
  rcases hasTokens 0 with ⟨lexemes, scanned, rfl⟩
  have leads := derives.complete limit limit lexemes [] (Nat.le_refl _) rfl (follows_nil 7)
  rw [List.append_nil] at leads
  rw [parsesWithin, scanned]
  by_cases fits : nesting ≤ limit
  · simp [leads.1 fits, fits]
  · rcases leads.2 fits with ⟨unread, failed⟩
    simp [failed, fits]

theorem operandCount_eq {length : Nat}
    (derives : Derives (.chain .conjunction length expr) tokens nesting)
    (hasTokens : HasTokens source tokens) : operandCount source = length + 1 := by
  rcases hasTokens 0 with ⟨lexemes, scanned, rfl⟩
  rw [operandCount, scanned]
  exact congrArg (· + 1) derives.count_conjunction

theorem Evaluates.grouped (evaluates : Evaluates bindings source expr tokens value) :
    Evaluates bindings ('(' :: source ++ [')']) expr (.leftParen :: (tokens ++ [.rightParen]))
      value :=
  ⟨evaluates.hasTokens.grouped, evaluates.declared, evaluates.value⟩

end Sources

/-! ## Parts of conjunctions -/

/-- A text whose value is of truth, as a conjunction with so many operators. -/
def Conjunct (bindings : Record Json) (source : List Char) (length nesting : Nat) (value : Bool) :
    Prop :=
  ∃ expr tokens, Derives (.chain .conjunction length expr) tokens nesting ∧
    Evaluates bindings source expr tokens (.bool value)

section Conjuncts

variable {bindings : Record Json} {source : List Char} {length nesting : Nat} {value : Bool}

theorem undeclared?_and {schema : Schema} {left right : Expr} :
    undeclared? schema (.binary .and left right) = none ↔
      undeclared? schema left = none ∧ undeclared? schema right = none := by
  simp only [undeclared?, freeVariables, List.find?_append, Option.or_eq_none_iff]

theorem Conjunct.and {after : List Char} {more within : Nat} {other : Bool}
    (first : Conjunct bindings source length nesting value)
    (second : Conjunct bindings after more within other) :
    Conjunct bindings (source ++ ' ' :: '&' :: '&' :: ' ' :: after) (length + more + 1)
      (max nesting (within + length + 1)) (value && other) := by
  rcases first with ⟨left, tokens, firstDerives, firstEvaluates⟩
  rcases second with ⟨right, others, secondDerives, secondEvaluates⟩
  rcases firstDerives.conjoin secondDerives with ⟨expr, alike, derives⟩
  refine ⟨expr, _, derives, ?_, ?_, ?_⟩
  · exact firstEvaluates.hasTokens.append secondEvaluates.hasTokens.conjoined
      (separates_blank rfl)
  · have declared := undeclared?_and.mpr ⟨firstEvaluates.declared, secondEvaluates.declared⟩
    rw [undeclared?] at declared ⊢
    rw [alike.names]
    exact declared
  · rw [evaluate, alike.value]
    exact evaluateIn_and_of_bool firstEvaluates.value secondEvaluates.value

theorem Derives.grouped {expr : Expr} {tokens : List Token}
    (derives : Derives (.expression expr) tokens nesting) :
    Derives (.chain .conjunction 0 expr) (.leftParen :: (tokens ++ [.rightParen])) nesting :=
  ((Derives.plain (.bare (.group derives))).operand .conjunction).first

theorem conjunct_grouped
    (ok : evaluateSource bindings (String.ofList source) = .ok (.bool value)) :
    ∃ nesting, Conjunct bindings ('(' :: source ++ [')']) 0 nesting value := by
  rcases derives_of_evaluateSource ok with ⟨expr, tokens, nesting, derives, evaluates⟩
  exact ⟨nesting, expr, _, derives.grouped, evaluates.grouped⟩

theorem exists_chain_of_tight {expr : Expr} {lexemes : List Lexeme}
    (derives : Derives (.expression expr) (lexemes.map Lexeme.token) nesting)
    (scanned : scan 0 0 source = .ok lexemes) (tight : isLoose source = false) :
    ∃ length within,
      Derives (.chain .conjunction length expr) (lexemes.map Lexeme.token) within := by
  rw [isLoose, scanned, Bool.or_eq_false_iff] at tight
  have noOr : .orOr ∉ outside (lexemes.map Lexeme.token) := by simpa using tight.1
  have noQuestion : .question ∉ outside (lexemes.map Lexeme.token) := by simpa using tight.2
  rcases derives.conjunction_of_expression noOr noQuestion with ⟨length, within, -, chain⟩
  exact ⟨length, within, chain⟩

theorem isLoose_of_plain (noOr : Text.containsChars ['|', '|'] source = false)
    (plain : isBareConditional source = false) : isLoose source = false := by
  rw [isLoose]
  cases scanned : scan 0 0 source with
  | error failure => rfl
  | ok lexemes =>
      have noOrToken : .orOr ∉ outside (lexemes.map Lexeme.token) := by
        intro outer
        rw [containsChars_of_orOr scanned (mem_of_mem_outsideAt outer)] at noOr
        cases noOr
      rw [isBareConditional, scanned] at plain
      rw [Bool.or_eq_false_iff]
      exact ⟨by simpa using noOrToken, plain⟩

theorem conjunct_of_tight (ok : evaluateSource bindings (String.ofList source) = .ok (.bool value))
    (tight : isLoose source = false) :
    ∃ length nesting, Conjunct bindings source length nesting value := by
  rcases derives_of_evaluateSource ok with ⟨expr, tokens, nesting, derives, evaluates⟩
  rcases evaluates.hasTokens 0 with ⟨lexemes, scanned, rfl⟩
  rcases exists_chain_of_tight derives scanned tight with ⟨length, within, chain⟩
  exact ⟨length, within, expr, _, chain, evaluates⟩

theorem Conjunct.expression (conjunct : Conjunct bindings source length nesting value) :
    ∃ expr tokens, Derives (.expression expr) tokens (nesting + 1) ∧
      Evaluates bindings source expr tokens (.bool value) := by
  rcases conjunct with ⟨expr, tokens, derives, evaluates⟩
  exact ⟨expr, tokens, .unconditional (.first (.tighter rfl derives)), evaluates⟩

theorem Conjunct.parsesWithin_iff (conjunct : Conjunct bindings source length nesting value)
    (limit : Nat) : parsesWithin limit source = true ↔ nesting + 1 ≤ limit := by
  rcases conjunct.expression with ⟨expr, tokens, derives, evaluates⟩
  exact Expression.parsesWithin_iff derives evaluates.hasTokens

theorem Conjunct.operandCount_eq (conjunct : Conjunct bindings source length nesting value) :
    operandCount source = length + 1 := by
  rcases conjunct with ⟨expr, tokens, derives, evaluates⟩
  exact Expression.operandCount_eq derives evaluates.hasTokens

theorem Conjunct.evaluateSource (conjunct : Conjunct bindings source length nesting value) :
    (nesting < maxDepth → evaluateSource bindings (String.ofList source) = .ok (.bool value)) ∧
      (¬nesting < maxDepth → ∃ offset,
        evaluateSource bindings (String.ofList source) = .error (.parse offset .tooDeep)) := by
  rcases conjunct.expression with ⟨expr, tokens, derives, evaluates⟩
  exact evaluateSource_of_derives derives evaluates

end Conjuncts

end LiterateTest.Expression
