import LiterateTest.Proofs.Expression.Equality
import LiterateTest.Proofs.Expression.Height
import LiterateTest.Proofs.Expression.Spelling
import LiterateTest.Proofs.Fixture.Binding
import LiterateTest.Proofs.Fixture.Verdict

/-! The compact text of a JSON value is an expression, and the value is what it evaluates to. -/

namespace LiterateTest

open Expression

namespace Json

/-! ## Values -/

def isPlainText (text : String) : Bool :=
  text.toList.all fun c => 32 ≤ c.toNat || ['\n', '\r', '\t'].contains c

/-- Values of integers and plain texts, with lists and maps in each other at most so deep. The
least integer of 64 bits is not among them: without its sign it is no integer of 64 bits. -/
inductive IsLiteral : (levels : Nat) → Json → Prop
  | null (levels : Nat) : IsLiteral levels .null
  | bool (levels : Nat) (value : Bool) : IsLiteral levels (.bool value)
  | int (levels : Nat) {value : Int} {fits : -(2 ^ 63) ≤ value ∧ value < 2 ^ 64}
      (low : -(2 ^ 63) < value) (high : value < 2 ^ 63) :
      IsLiteral levels (.number (.int value fits))
  | string (levels : Nat) {text : String} (plain : isPlainText text = true) :
      IsLiteral levels (.string text)
  | list {levels : Nat} {items : List Json} (inside : ∀ item ∈ items, IsLiteral levels item) :
      IsLiteral (levels + 1) (.list items)
  | map {levels : Nat} {entries : Record Json} (sorted : (Record.keys entries).Pairwise (· < ·))
      (plain : ∀ entry ∈ entries, isPlainText entry.1 = true)
      (inside : ∀ entry ∈ entries, IsLiteral levels entry.2) :
      IsLiteral (levels + 1) (.map entries)

def magnitude (value : Int) : Fin (2 ^ 63) :=
  Fin.ofNat (2 ^ 63) value.natAbs

mutual
def expr : Json → Expr
  | number (.int value _) =>
      if value < 0 then .unary .neg (literalInt (magnitude value)) else literalInt (magnitude value)
  | list items => .list (itemExprs items)
  | map entries => .map (entryExprs entries)
  | value => .literal value

def itemExprs : List Json → List Expr
  | [] => []
  | item :: rest => expr item :: itemExprs rest

def entryExprs : List (String × Json) → List (Expr × Expr)
  | [] => []
  | (key, value) :: rest => (.literal (.string key), expr value) :: entryExprs rest
end

mutual
def tokens : Json → List Token
  | null => [.nullWord]
  | bool true => [.trueWord]
  | bool false => [.falseWord]
  | number (.int value _) =>
      if value < 0 then [.minus, .int (magnitude value)] else [.int (magnitude value)]
  | number (.float value _) => [.float value]
  | string text => [.string text]
  | list items => .leftBracket :: (itemTokens items ++ [.rightBracket])
  | map entries => .leftBrace :: (entryTokens entries ++ [.rightBrace])

def itemTokens : List Json → List Token
  | [] => []
  | [item] => tokens item
  | item :: rest => tokens item ++ .comma :: itemTokens rest

def entryTokens : List (String × Json) → List Token
  | [] => []
  | [(key, value)] => .string key :: .colon :: tokens value
  | (key, value) :: rest => .string key :: .colon :: (tokens value ++ .comma :: entryTokens rest)
end

/-! ## Texts -/

theorem val_magnitude {value : Int} (low : -(2 ^ 63) < value) (high : value < 2 ^ 63) :
    (magnitude value).val = value.natAbs := by
  rw [magnitude, Fin.val_ofNat, Nat.mod_eq_of_lt]
  omega

theorem writes_escapeChar {c : Char} (plain : 32 ≤ c.toNat ∨ c ∈ ['\n', '\r', '\t']) :
    Writes '"' (escapeChar c) [c] := by
  rw [escapeChar.eq_def]
  split
  · exact writes_escape '"'
  · exact writes_escape '\\'
  · simp at plain
  · simp at plain
  · exact writes_escape 'n'
  · exact writes_escape 'r'
  · exact writes_escape 't'
  · next noQuote noBackslash _ _ noLine noReturn noTab =>
      have noControl : ¬c.toNat < 32 := by
        rcases plain with visible | control
        · omega
        · rcases List.mem_cons.mp control with same | control
          · exact absurd same noLine
          · rcases List.mem_cons.mp control with same | control
            · exact absurd same noReturn
            · exact absurd (List.mem_singleton.mp control) noTab
      rw [if_neg noControl]
      exact writes_plain noQuote noBackslash

theorem hasTokens_stringChars {text : String} {rest : List Char} {after : List Token}
    (plain : isPlainText text = true) (following : HasTokens rest after) :
    HasTokens (stringChars text ++ rest) (.string text :: after) := by
  have written : Writes '"' (text.toList.flatMap escapeChar) text.toList := by
    apply writes_flatMap
    intro c member
    apply writes_escapeChar
    simpa [isPlainText] using List.all_eq_true.mp plain c member
  have whole := following.string written
  rw [String.ofList_toList] at whole
  simpa [stringChars] using whole

theorem hasTokens_int {value : Int} {fits : -(2 ^ 63) ≤ value ∧ value < 2 ^ 64} {rest : List Char}
    {after : List Token} (low : -(2 ^ 63) < value) (high : value < 2 ^ 63) (ends : Ends rest)
    (following : HasTokens rest after) :
    HasTokens (renderChars (.number (.int value fits)) ++ rest)
      (tokens (.number (.int value fits)) ++ after) := by
  have digits := following.int (magnitude value) ends
  rw [val_magnitude low high] at digits
  rw [renderChars, Number.render, tokens]
  cases value with
  | ofNat value =>
      rw [if_neg (by simp)]
      have written : toString (Int.ofNat value) = Nat.repr value := rfl
      rw [written, Nat.toList_repr]
      exact digits
  | negSucc value =>
      rw [if_pos (Int.negSucc_lt_zero value)]
      have written : toString (Int.negSucc value) = "-" ++ Nat.repr (value + 1) := rfl
      rw [written, String.toList_append, Nat.toList_repr]
      exact digits.mark (isMark_of_operator? rfl (by decide))

def IsRead (value : Json) : Prop :=
  ∀ rest after, Ends rest → HasTokens rest after →
    HasTokens (renderChars value ++ rest) (tokens value ++ after)

section

variable {rest : List Char} {after : List Token}

theorem hasTokens_renderItems {items : List Json} (read : ∀ item ∈ items, IsRead item)
    (ends : Ends rest) (following : HasTokens rest after) :
    HasTokens (renderItems items ++ rest) (itemTokens items ++ after) := by
  induction items with
  | nil => exact following
  | cons item others induction =>
      have first := read item List.mem_cons_self
      cases others with
      | nil => exact first _ _ ends following
      | cons next others =>
          have isComma : IsMark ',' .comma := isMark_of_operator? rfl (by decide)
          have more := induction fun other member => read other (List.mem_cons_of_mem item member)
          have whole := first _ _ (ends_of_isMark isComma (by decide) _) (more.mark isComma)
          simpa [renderItems, itemTokens] using whole

theorem hasTokens_renderEntries {entries : List (String × Json)}
    (plain : ∀ entry ∈ entries, isPlainText entry.1 = true)
    (read : ∀ entry ∈ entries, IsRead entry.2) (ends : Ends rest) (following : HasTokens rest after) :
    HasTokens (renderEntries entries ++ rest) (entryTokens entries ++ after) := by
  have isColon : IsMark ':' .colon := isMark_of_operator? rfl (by decide)
  have isComma : IsMark ',' .comma := isMark_of_operator? rfl (by decide)
  induction entries with
  | nil => exact following
  | cons entry others induction =>
      rcases entry with ⟨key, value⟩
      have isKey := plain (key, value) List.mem_cons_self
      have first := read (key, value) List.mem_cons_self
      cases others with
      | nil =>
          have whole := hasTokens_stringChars isKey ((first _ _ ends following).mark isColon)
          simpa [renderEntries, entryTokens] using whole
      | cons next others =>
          have more := induction (fun other member => plain other (List.mem_cons_of_mem _ member))
            fun other member => read other (List.mem_cons_of_mem _ member)
          have value := first _ _ (ends_of_isMark isComma (by decide) _) (more.mark isComma)
          have whole := hasTokens_stringChars isKey (value.mark isColon)
          simpa [renderEntries, entryTokens] using whole

end

theorem isRead_of_isLiteral {levels : Nat} {value : Json} (literal : IsLiteral levels value) :
    IsRead value := by
  intro rest after ends following
  induction literal generalizing rest after with
  | null =>
      exact following.word ['u', 'l', 'l'] (by decide) (by decide) ends
  | bool levels value =>
      cases value with
      | false => exact following.word ['a', 'l', 's', 'e'] (by decide) (by decide) ends
      | true => exact following.word ['r', 'u', 'e'] (by decide) (by decide) ends
  | int levels low high => exact hasTokens_int low high ends following
  | string levels plain => exact hasTokens_stringChars plain following
  | list inside induction =>
      have closer : IsMark ']' .rightBracket := isMark_of_operator? rfl (by decide)
      have items := hasTokens_renderItems (fun item member => induction item member)
        (ends_of_isMark closer (by decide) rest) (following.mark closer)
      have whole := items.mark (isMark_of_operator? (c := '[') rfl (by decide))
      simpa [renderChars, tokens] using whole
  | map sorted plain inside induction =>
      have closer : IsMark '\x7d' .rightBrace := isMark_of_operator? rfl (by decide)
      have entries := hasTokens_renderEntries plain (fun entry member => induction entry member)
        (ends_of_isMark closer (by decide) rest) (following.mark closer)
      have whole := entries.mark (isMark_of_operator? (c := '\x7b') rfl (by decide))
      simpa [renderChars, tokens] using whole

/-! ## Expressions -/

def DerivesWithin (limit : Nat) (phrase : Phrase) (tokens : List Token) : Prop :=
  ∃ nesting, nesting ≤ limit ∧ Derives phrase tokens nesting

variable {limit : Nat}

theorem DerivesWithin.expression {expr : Expr} {tokens : List Token}
    (unary : DerivesWithin limit (.unary expr) tokens) :
    DerivesWithin (limit + 1) (.expression expr) tokens := by
  rcases unary with ⟨nesting, fits, unary⟩
  exact ⟨nesting + 1, by omega, unary.whole⟩

theorem derivesWithin_literal {token : Token} {expr : Expr} (found : token.literal? = some expr) :
    DerivesWithin limit (.unary expr) [token] :=
  ⟨0, Nat.zero_le limit, .plain (.bare (.literal found))⟩

theorem derivesWithin_items {items : List Json} (nonempty : items ≠ [])
    (each : ∀ item ∈ items, DerivesWithin limit (.expression item.expr) item.tokens) :
    DerivesWithin limit (.items (itemExprs items)) (itemTokens items) := by
  induction items with
  | nil => exact absurd rfl nonempty
  | cons item others induction =>
      rcases each item List.mem_cons_self with ⟨nesting, fits, first⟩
      cases others with
      | nil => exact ⟨nesting, fits, .lastItem first⟩
      | cons next others =>
          rcases induction (List.cons_ne_nil _ _) fun other member =>
            each other (List.mem_cons_of_mem item member) with ⟨within, fitsAfter, more⟩
          exact ⟨max nesting within, by omega, .moreItems first more⟩

theorem derivesWithin_pairs {entries : List (String × Json)} (nonempty : entries ≠ [])
    (each : ∀ entry ∈ entries, DerivesWithin limit (.expression entry.2.expr) entry.2.tokens)
    (positive : 0 < limit) :
    DerivesWithin limit (.pairs (entryExprs entries)) (entryTokens entries) := by
  induction entries with
  | nil => exact absurd rfl nonempty
  | cons entry others induction =>
      rcases entry with ⟨key, value⟩
      have isKey : Derives (.expression (.literal (.string key))) [.string key] 1 :=
        derives_literal rfl
      rcases each (key, value) List.mem_cons_self with ⟨nesting, fits, isValue⟩
      cases others with
      | nil => exact ⟨max 1 nesting, by omega, .lastPair isKey isValue⟩
      | cons next others =>
          rcases induction (List.cons_ne_nil _ _) fun other member =>
            each other (List.mem_cons_of_mem _ member) with ⟨within, fitsAfter, more⟩
          exact ⟨max 1 (max nesting within), by omega, .morePairs isKey isValue more⟩

/-- A list or a map takes one from the nesting for what is in it, and so does a sign. -/
theorem derivesWithin_of_isLiteral {levels : Nat} {value : Json}
    (literal : IsLiteral levels value) :
    DerivesWithin (levels + 1) (.unary value.expr) value.tokens := by
  induction literal with
  | null => exact derivesWithin_literal rfl
  | bool levels value => cases value <;> exact derivesWithin_literal rfl
  | string => exact derivesWithin_literal rfl
  | @int levels value _ low high =>
      rw [expr, tokens]
      split
      · exact ⟨1, by omega, .unary rfl (.plain (.bare (.literal rfl)))⟩
      · exact derivesWithin_literal rfl
  | @list levels items inside induction =>
      have arguments : DerivesWithin (levels + 2) (.arguments (itemExprs items))
          (itemTokens items) := by
        by_cases none : items = []
        · subst none
          exact ⟨0, Nat.zero_le _, .noArguments⟩
        · rcases derivesWithin_items none fun item member => (induction item member).expression
            with ⟨nesting, fits, derives⟩
          exact ⟨nesting, fits, .someArguments derives⟩
      rcases arguments with ⟨nesting, fits, derives⟩
      exact ⟨nesting, fits, .plain (.bare (.list derives))⟩
  | @map levels entries sorted plain inside induction =>
      have pairs : DerivesWithin (levels + 2) (.entries (entryExprs entries))
          (entryTokens entries) := by
        by_cases none : entries = []
        · subst none
          exact ⟨0, Nat.zero_le _, .noEntries⟩
        · have each := fun entry member => (induction entry member).expression
          rcases derivesWithin_pairs none each (by omega) with ⟨nesting, fits, derives⟩
          exact ⟨nesting, fits, .someEntries derives⟩
      rcases pairs with ⟨nesting, fits, derives⟩
      exact ⟨nesting, fits, .plain (.bare (.map derives))⟩

mutual
theorem freeVariables_expr (bound : List String) : (value : Json) →
    freeVariables bound value.expr = []
  | .null | .bool _ | .string _ | .number (.float _ _) => by simp only [expr, freeVariables]
  | .number (.int value _) => by
      rw [expr]
      split <;> simp only [freeVariables, literalInt]
  | .list items => by
      rw [expr, freeVariables]
      exact freeInItems_itemExprs bound items
  | .map entries => by
      rw [expr, freeVariables]
      exact freeInEntries_entryExprs bound entries

theorem freeInItems_itemExprs (bound : List String) : (items : List Json) →
    freeInItems bound (itemExprs items) = []
  | [] => by rw [itemExprs, freeInItems]
  | item :: rest => by
      rw [itemExprs, freeInItems, freeVariables_expr, freeInItems_itemExprs bound rest,
        List.append_nil]

theorem freeInEntries_entryExprs (bound : List String) : (entries : List (String × Json)) →
    freeInEntries bound (entryExprs entries) = []
  | [] => by rw [entryExprs, freeInEntries]
  | (key, value) :: rest => by
      rw [entryExprs, freeInEntries, freeVariables, freeVariables_expr,
        freeInEntries_entryExprs bound rest, List.append_nil, List.append_nil]
end

/-! ## Values of the expressions -/

section

variable {scope : Scope}

theorem evaluateIn_literalInt (scope : Scope) {value : Fin (2 ^ 63)} {integer : Int}
    (same : (value.val : Int) = integer) (fits : -(2 ^ 63) ≤ integer ∧ integer < 2 ^ 64) :
    evaluateIn scope (literalInt value) = .ok (.number (.int integer fits)) := by
  subst same
  rw [literalInt, evaluateIn]

theorem negate_int {value negated : Int} {fits : -(2 ^ 63) ≤ value ∧ value < 2 ^ 64}
    (same : -value = negated) (fitsToo : -(2 ^ 63) ≤ negated ∧ negated < 2 ^ 64)
    (high : value < 2 ^ 63) (negatedHigh : negated < 2 ^ 63) :
    negate (.int value fits) = .ok (.number (.int negated fitsToo)) := by
  subst same
  rw [negate, Number.signed?, if_pos high]
  dsimp only
  rw [Number.ofSigned?, dif_pos ⟨fitsToo.1, negatedHigh⟩]

theorem evaluateIn_int {value : Int} {fits : -(2 ^ 63) ≤ value ∧ value < 2 ^ 64}
    (low : -(2 ^ 63) < value) (high : value < 2 ^ 63) :
    evaluateIn scope (expr (.number (.int value fits))) = .ok (.number (.int value fits)) := by
  have isMagnitude := val_magnitude low high
  rw [expr]
  split
  · next negative =>
      have operand : evaluateIn scope (literalInt (magnitude value)) =
          .ok (.number (.int (-value) (by omega))) := evaluateIn_literalInt scope (by omega) _
      rw [evaluateIn, operand]
      exact negate_int (Int.neg_neg value) fits (by omega) high
  · next positive => exact evaluateIn_literalInt scope (by omega) fits

theorem evaluateItems_itemExprs {items : List Json}
    (each : ∀ item ∈ items, evaluateIn scope item.expr = .ok item) :
    evaluateItems scope (itemExprs items) = .ok items := by
  induction items with
  | nil => rw [itemExprs, evaluateItems]
  | cons item rest induction =>
      have more := induction fun other member => each other (List.mem_cons_of_mem item member)
      rw [itemExprs, evaluateItems, each item List.mem_cons_self, more]
      rfl

end

theorem evaluateEntries_entryExprs {scope : Scope} {record entries : Record Json}
    (sorted : (Record.keys (record ++ entries)).Pairwise (· < ·))
    (each : ∀ entry ∈ entries, evaluateIn scope entry.2.expr = .ok entry.2) :
    evaluateEntries scope record (entryExprs entries) = .ok (record ++ entries) := by
  induction entries generalizing record with
  | nil => rw [entryExprs, evaluateEntries, List.append_nil]
  | cons entry rest induction =>
      rcases entry with ⟨key, value⟩
      have last : ∀ found ∈ Record.keys record, found < key := by
        intro found member
        rw [Record.keys, List.map_append, List.pairwise_append] at sorted
        exact sorted.2.2 found member key List.mem_cons_self
      have isValue := each (key, value) List.mem_cons_self
      rw [entryExprs, evaluateEntries, evaluateIn, isValue]
      change evaluateEntries scope (Record.insert key value record) (entryExprs rest) = _
      rw [Record.insert_of_lt last, induction, List.append_assoc, List.singleton_append]
      · rwa [List.append_assoc, List.singleton_append]
      · exact fun other member => each other (List.mem_cons_of_mem _ member)

theorem evaluateIn_expr {levels : Nat} {value : Json} (literal : IsLiteral levels value)
    (scope : Scope) : evaluateIn scope value.expr = .ok value := by
  induction literal with
  | null | bool | string => simp only [expr, evaluateIn]
  | int levels low high => exact evaluateIn_int low high
  | list inside induction =>
      rw [expr, evaluateIn, evaluateItems_itemExprs induction]
      rfl
  | map sorted plain inside induction =>
      rw [expr, evaluateIn, evaluateEntries_entryExprs (by simpa using sorted) induction]
      rfl

theorem IsLiteral.isSorted {levels : Nat} {value : Json} (literal : IsLiteral levels value) :
    value.IsSorted := by
  induction literal with
  | null => exact .null
  | bool => exact .bool _
  | int => exact .number _
  | string => exact .string _
  | list inside induction => exact .list induction
  | map sorted plain inside induction => exact .map sorted induction

/-! ## Sources -/

theorem hasTokens_render {levels : Nat} {value : Json} (literal : IsLiteral levels value) :
    HasTokens (renderChars value) value.tokens := by
  have whole := isRead_of_isLiteral literal [] [] ends_nil hasTokens_nil
  rwa [List.append_nil, List.append_nil] at whole

theorem compile_render {levels : Nat} {value : Json} (literal : IsLiteral levels value)
    (shallow : levels + 2 ≤ maxDepth) (schema : Schema) :
    compile schema value.render = .ok ⟨value.render, value.expr⟩ := by
  rcases (derivesWithin_of_isLiteral literal).expression with ⟨nesting, fits, derives⟩
  have parsed := parse_of_derives derives (by omega) (hasTokens_render literal)
  have declared : undeclared? schema value.expr = none := by
    rw [undeclared?, freeVariables_expr]
    rfl
  simp [compile, render, parsed, Bind.bind, Except.bind, declared]

theorem parse_equal {levels : Nat} {value : Json} (literal : IsLiteral levels value)
    (shallow : levels + 3 ≤ maxDepth) :
    parse ("json == " ++ value.render) =
      .ok (.binary .equal (.reference "json") value.expr) := by
  rcases derivesWithin_of_isLiteral literal with ⟨nesting, fits, derives⟩
  have name : Derives (.unary (.reference "json")) [.word "json"] 0 :=
    .plain (.bare (.reference "json"))
  have isEqual : Level.relation.operator? .equal = some .equal := rfl
  have relation := (name.operand .relation).first.binary isEqual (derives.operand .relation)
  have disjunction : Derives (.operand .disjunction _) _ _ :=
    .tighter rfl (.first (.tighter rfl relation))
  have before : HasTokens "json ==".toList [.word "json", .equal] :=
    fun offset => ⟨[⟨.word "json", offset⟩, ⟨.equal, _⟩], rfl, rfl⟩
  have hasTokens := before.append (hasTokens_render literal).blank (separates_blank rfl)
  have source : "json == " ++ value.render =
      String.ofList ("json ==".toList ++ ' ' :: renderChars value) := by
    rw [render, ← String.toList_inj]
    simp
  rw [source]
  exact parse_of_derives (.unconditional disjunction.first) (by omega) hasTokens

theorem evaluateSource_equal {levels : Nat} {value : Json} {bindings : Record Json}
    (literal : IsLiteral levels value) (shallow : levels + 3 ≤ maxDepth)
    (found : Record.get? "json" bindings = some value) :
    evaluateSource bindings ("json == " ++ value.render) = .ok (.bool true) := by
  have declared : undeclared? (Schema.ofBindings bindings)
      (.binary .equal (.reference "json") value.expr) = none := by
    rw [undeclared?, freeVariables, freeVariables_expr, freeVariables]
    simpa [Schema.ofBindings, Schema.admits] using Record.mem_keys_of_get? found
  rw [evaluateSource_eq, parse_equal literal shallow]
  simp only [Bind.bind, Except.bind, evaluateDeclared, declared]
  rw [evaluate, evaluateIn_binary (by decide), evaluateIn_expr literal]
  simp [evaluateIn, Scope.lookup, Scope.get?, Record.get?, found, binaryOperation,
    valuesEqual_self literal.isSorted, Bind.bind, Except.bind]

theorem get?_bindings (fixture : Fixture) {actual : ProcessOutput} {value : Json}
    (isJson : readLike? actual.stdout = some value) :
    Record.get? "json" (bindings fixture actual) = some value :=
  get?_bindings_of_standard fixture ((readLike?_eq actual.stdout).symm.trans isJson)

/-- The text of a value is a literal of it: it compiles, whichever names are known, and evaluates
to the value, whatever they stand for. So a test whose output is read as the value can say that
with the text. -/
theorem evaluates_render {levels : Nat} {value : Json} (literal : IsLiteral levels value)
    (shallow : levels + 3 ≤ maxDepth) :
    (∀ schema, ∃ program, compile schema value.render = .ok program ∧
      ∀ bindings, program.run bindings = .ok value) ∧
    ∀ fixture actual, readLike? actual.stdout = some value →
      evaluateExpression ("json == " ++ value.render) (bindings fixture actual) = .passed := by
  constructor
  · intro schema
    exact ⟨_, compile_render literal (by omega) schema, fun _ => evaluateIn_expr literal _⟩
  · intro fixture actual isJson
    have isTrue := evaluateSource_equal literal shallow (get?_bindings fixture isJson)
    rw [evaluateExpression_of_evaluateSource isTrue]
    rfl

theorem evaluates_render_of_escapes :
    ∃ value, render value =
        "[-9223372036854775807,\x7b\"a\\\\b\":\"\\n\\\"\",\"c\":[]\x7d]" ∧
      (∀ schema, ∃ program, compile schema value.render = .ok program ∧
        ∀ bindings, program.run bindings = .ok value) ∧
      ∀ fixture actual, readLike? actual.stdout = some value →
        evaluateExpression ("json == " ++ value.render) (bindings fixture actual) = .passed := by
  let integer : Number := .int (-9223372036854775807) (by decide)
  let entries : Record Json := [("a\\b", .string "\n\""), ("c", .list [])]
  have isEntries : IsLiteral 2 (.map entries) := by
    refine .map (by decide) (List.all_eq_true.mp (by decide)) fun entry member => ?_
    rcases List.mem_cons.mp member with rfl | member
    · exact .string 1 (by decide)
    · cases List.mem_singleton.mp member
      exact .list fun item absent => nomatch absent
  have literal : IsLiteral 3 (.list [.number integer, .map entries]) := by
    refine .list fun item member => ?_
    rcases List.mem_cons.mp member with rfl | member
    · exact .int 2 (by decide) (by decide)
    · cases List.mem_singleton.mp member
      exact isEntries
  exact ⟨.list [.number integer, .map entries], by decide +kernel,
    evaluates_render literal (by decide)⟩

end Json

end LiterateTest
