import LiterateTest.Proofs.Expression.Height

/-! What a conjunction requires: it is true only if each of the texts that it was joined from is
true by itself. Which values other than those of truth count as true does not matter. -/

namespace LiterateTest.Expression

section

variable {bindings : Record Json}

/-! ## Values -/

theorem Alike.evaluateDeclared {left right : Expr} (alike : Alike left right) :
    evaluateDeclared bindings left = evaluateDeclared bindings right := by
  rw [Expression.evaluateDeclared, Expression.evaluateDeclared, undeclared?, undeclared?,
    alike.names, evaluate, evaluate, alike.value]

theorem evaluateDeclared_eq_ok_iff {expr : Expr} {value : Json} :
    evaluateDeclared bindings expr = .ok value ↔
      undeclared? (Schema.ofBindings bindings) expr = none ∧
        evaluate bindings expr = .ok value := by
  rw [evaluateDeclared]
  cases undeclared? (Schema.ofBindings bindings) expr <;> simp

theorem evaluateSource_of_parse {source : String} {expr : Expr}
    (accepted : parse source = .ok expr) :
    evaluateSource bindings source = evaluateDeclared bindings expr := by
  rw [evaluateSource_eq, accepted]
  rfl

theorem eq_bool_of_logicalOperand {op : BinaryOp} {value : Json} {holds : Bool}
    (ok : logicalOperand op value = .ok holds) : value = .bool holds := by
  cases value <;> cases ok
  rfl

theorem of_evaluateDeclared_and {left right : Expr} {value : Json}
    (ok : evaluateDeclared bindings (.binary .and left right) = .ok value) :
    value = .bool false ∨
      value = .bool true ∧ evaluateDeclared bindings left = .ok (.bool true) ∧
        evaluateDeclared bindings right = .ok (.bool true) := by
  rcases evaluateDeclared_eq_ok_iff.mp ok with ⟨declared, result⟩
  rcases undeclared?_and.mp declared with ⟨leftDeclared, rightDeclared⟩
  rw [evaluate, evaluateIn_and] at result
  rcases ok_of_bind result with ⟨leftValue, isLeft, afterLeft⟩
  rcases ok_of_bind afterLeft with ⟨leftHolds, leftTruth, afterTruth⟩
  rw [eq_bool_of_logicalOperand leftTruth] at isLeft
  cases leftHolds with
  | false =>
      cases afterTruth
      exact .inl rfl
  | true =>
      rw [if_pos rfl] at afterTruth
      rcases ok_of_bind afterTruth with ⟨rightValue, isRight, afterRight⟩
      rcases ok_of_bind afterRight with ⟨rightHolds, rightTruth, same⟩
      rw [eq_bool_of_logicalOperand rightTruth] at isRight
      cases same
      cases rightHolds with
      | false => exact .inl rfl
      | true =>
          exact .inr ⟨rfl, evaluateDeclared_eq_ok_iff.mpr ⟨leftDeclared, isLeft⟩,
            evaluateDeclared_eq_ok_iff.mpr ⟨rightDeclared, isRight⟩⟩

/-! ## Joined texts -/

variable {isTrue : Json → Prop}

/-- A text that is read as a conjunction with so many operators, and whose value counts as true
only if that of each part does. -/
def Requires (isTrue : Json → Prop) (bindings : Record Json) (source : List Char) (length : Nat)
    (parts : List (List Char)) : Prop :=
  ∃ expr tokens nesting, Derives (.chain .conjunction length expr) tokens nesting ∧
    HasTokens source tokens ∧
    ∀ value, evaluateDeclared bindings expr = .ok value → isTrue value →
      ∀ part ∈ parts, ∃ own, evaluateSource bindings (String.ofList part) = .ok own ∧ isTrue own

theorem requires_of_parse {part source : List Char} {length nesting : Nat} {expr : Expr}
    {tokens : List Token} (accepted : parse (String.ofList part) = .ok expr)
    (derives : Derives (.chain .conjunction length expr) tokens nesting)
    (hasTokens : HasTokens source tokens) : Requires isTrue bindings source length [part] := by
  refine ⟨expr, tokens, nesting, derives, hasTokens, fun value ok counts other member => ?_⟩
  cases List.mem_singleton.mp member
  exact ⟨value, (evaluateSource_of_parse accepted).trans ok, counts⟩

theorem requires_grouped {part : List Char} {expr : Expr}
    (accepted : parse (String.ofList part) = .ok expr) :
    Requires isTrue bindings ('(' :: part ++ [')']) 0 [part] := by
  rcases derives_of_parse accepted with ⟨lexemes, nesting, lexed, -, derives⟩
  rw [tokenize, String.toList_ofList] at lexed
  exact requires_of_parse accepted derives.grouped (hasTokens_of_scan lexed).grouped

theorem requires_plain {part : List Char} {expr : Expr}
    (accepted : parse (String.ofList part) = .ok expr)
    (noOr : Text.containsChars ['|', '|'] part = false) (plain : isBareConditional part = false) :
    ∃ length, Requires isTrue bindings part length [part] := by
  rcases derives_of_parse accepted with ⟨lexemes, nesting, lexed, -, derives⟩
  rw [tokenize, String.toList_ofList] at lexed
  rcases exists_chain_of_tight derives lexed (isLoose_of_plain noOr plain) with
    ⟨length, within, chain⟩
  exact ⟨length, requires_of_parse accepted chain (hasTokens_of_scan lexed)⟩

section

variable (truth : ∀ holds, isTrue (.bool holds) ↔ holds = true)
include truth

theorem Requires.and {source after : List Char} {length more : Nat}
    {parts others : List (List Char)}
    (first : Requires isTrue bindings source length parts)
    (second : Requires isTrue bindings after more others) :
    Requires isTrue bindings (source ++ ' ' :: '&' :: '&' :: ' ' :: after) (length + more + 1)
      (parts ++ others) := by
  rcases first with ⟨left, tokens, nesting, firstDerives, firstTokens, firstTrue⟩
  rcases second with ⟨right, afterTokens, within, secondDerives, secondTokens, secondTrue⟩
  rcases firstDerives.conjoin secondDerives with ⟨expr, alike, derives⟩
  refine ⟨expr, _, _, derives, firstTokens.append secondTokens.conjoined (separates_blank rfl), ?_⟩
  intro value ok counts
  rw [alike.evaluateDeclared] at ok
  rcases of_evaluateDeclared_and ok with rfl | ⟨rfl, leftTrue, rightTrue⟩
  · cases (truth false).mp counts
  · intro part member
    have isTrueTrue := (truth true).mpr rfl
    rcases List.mem_append.mp member with member | member
    · exact firstTrue _ leftTrue isTrueTrue part member
    · exact secondTrue _ rightTrue isTrueTrue part member

end

theorem Requires.of_evaluateSource {source : List Char} {length : Nat} {parts : List (List Char)}
    (requires : Requires isTrue bindings source length parts) {value : Json}
    (ok : evaluateSource bindings (String.ofList source) = .ok value) (counts : isTrue value) :
    ∀ part ∈ parts, ∃ own, evaluateSource bindings (String.ofList part) = .ok own ∧ isTrue own := by
  rcases requires with ⟨expr, tokens, nesting, chain, hasTokens, partsTrue⟩
  rcases hasTokens 0 with ⟨lexemes, scanned, rfl⟩
  have derives : Derives (.expression expr) (lexemes.map Lexeme.token) (nesting + 1) :=
    .unconditional (.first (.tighter rfl chain))
  have leads := parseLexemes_of_derives derives
  rw [evaluateSource_eq, parse_ofList, scanned] at ok
  by_cases fits : nesting + 1 ≤ maxDepth
  · simp only [leads.1 fits] at ok
    exact partsTrue value ok counts
  · rcases leads.2 fits with ⟨unread, failed⟩
    simp only [failed] at ok
    cases ok

end

end LiterateTest.Expression
