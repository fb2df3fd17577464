import LiterateTest.Document.Validation
import LiterateTest.Proofs.Expression.Height
import LiterateTest.Proofs.Expression.TokenEnd
import LiterateTest.Proofs.Text

/-! Which items of a validation list stand for an expression: those with a value behind a key, and
those that are expressions themselves. Whatever is kept stands for one that is not empty. -/

namespace LiterateTest.Validation

open Expression

/-! ## Labels -/

theorem isLabel_iff {item : List Char} :
    isLabel item = true ↔
      (∃ key, item = key ++ [':'] ∧ ':' ∉ key) ∨
        (':' ∉ item ∧
          Text.containsChars "validation".toList (item.map Char.toLower) = true) := by
  rw [isLabel.eq_def]
  split
  · next key reversed =>
      have whole : item = key.reverse ++ [':'] := by
        rw [← List.reverse_reverse item, reversed, List.reverse_cons]
      subst whole
      constructor
      · intro label
        exact .inl ⟨key.reverse, rfl, by simpa using label⟩
      · rintro (⟨other, same, noColon⟩ | ⟨noColon, -⟩)
        · rw [List.append_left_inj] at same
          rw [← same] at noColon
          simpa using noColon
        · simp at noColon
  · next noColonLast =>
      constructor
      · intro label
        right
        simpa using label
      · rintro (⟨key, rfl, -⟩ | named)
        · exact absurd List.reverse_concat (noColonLast key.reverse)
        · simpa using named

/-! ## Values -/

theorem eq_of_valueAfter? {key : String} {item value : List Char}
    (found : valueAfter? key item = some value) :
    ∃ rest, item = key.toList ++ ':' :: rest ∧ value = Text.trimChars rest := by
  rcases Option.map_eq_some_iff.mp found with ⟨rest, stripped, rfl⟩
  refine ⟨rest, ?_, rfl⟩
  rw [Text.eq_of_stripLead? stripped, List.append_assoc]
  rfl

def HasValue (key : String) (item : List Char) : Prop :=
  ∃ value, valueAfter? key item = some value ∧ value ≠ []

theorem HasValue.ne_nil {key : String} {item : List Char} (hasValue : HasValue key item) :
    item ≠ [] := by
  rcases hasValue with ⟨value, found, -⟩
  rcases eq_of_valueAfter? found with ⟨rest, rfl, -⟩
  simp

theorem HasValue.isLabel_eq_false {key : String} {item : List Char}
    (hasValue : HasValue key item) : isLabel item = false := by
  rcases hasValue with ⟨value, found, nonempty⟩
  rcases eq_of_valueAfter? found with ⟨rest, rfl, rfl⟩
  rw [Bool.eq_false_iff]
  intro label
  rcases isLabel_iff.mp label with ⟨name, same, noColon⟩ | ⟨noColon, -⟩
  · cases rest using List.reverseRecOn with
    | nil => exact nonempty rfl
    | append_singleton inside last =>
        have apart : key.toList ++ ':' :: (inside ++ [last]) =
            (key.toList ++ ':' :: inside) ++ [last] := by simp
        rw [apart] at same
        rw [← (List.append_inj' same rfl).1] at noColon
        simp at noColon
  · simp at noColon

/-! ## Expressions -/

theorem parse_ne_ok_of_colon {text : List Char} {expr : Expr} :
    parse (String.ofList (text ++ [':'])) ≠ .ok expr := by
  intro accepted
  rcases derives_of_parse accepted with ⟨lexemes, nesting, lexed, -, derives⟩
  rw [tokenize, String.toList_ofList] at lexed
  rcases exists_colon_of_scan lexed (Nat.zero_le _) with ⟨others, same⟩
  rcases derives.endsWhole with ⟨before, last, ends, noColon⟩ | none | none
  · rw [same] at ends
    exact noColon (List.singleton_inj.mp (List.append_inj' ends rfl).2).symm
  · cases none
  · cases none

theorem parse_nil_ne_ok {expr : Expr} : parse (String.ofList []) ≠ .ok expr := by
  intro accepted
  cases accepted

/-- Whether an item says what has to hold, by a value behind a key or by being an expression. What
names validation without a colon is taken for a label. -/
def Asserts (item : String) : Prop :=
  (∃ key ∈ ["cel", "contains", "regex", "not"], HasValue key (Text.trimChars item.toList)) ∨
    (∃ expr, parse (Text.trim item) = .ok expr) ∧
      (':' ∈ Text.trimChars item.toList ∨
        Text.containsChars "validation".toList
          ((Text.trimChars item.toList).map Char.toLower) = false)

theorem mem_keptItems {items : List String} {item : List Char} :
    item ∈ keptItems items ↔
      (∃ written ∈ items, Text.trimChars written.toList = item) ∧ item ≠ [] ∧
        isLabel item = false := by
  simp [keptItems]

theorem Asserts.kept {item : String} (asserts : Asserts item) {items : List String}
    (member : item ∈ items) : Text.trimChars item.toList ∈ keptItems items := by
  refine mem_keptItems.mpr ⟨⟨item, member, rfl⟩, ?_⟩
  rcases asserts with ⟨key, -, hasValue⟩ | ⟨⟨expr, accepted⟩, noName⟩
  · exact ⟨hasValue.ne_nil, hasValue.isLabel_eq_false⟩
  · rw [Text.trim] at accepted
    constructor
    · intro empty
      rw [empty] at accepted
      exact parse_nil_ne_ok accepted
    · rw [Bool.eq_false_iff]
      intro label
      rcases isLabel_iff.mp label with ⟨key, ends, -⟩ | ⟨noColon, named⟩
      · rw [ends] at accepted
        exact parse_ne_ok_of_colon accepted
      · rcases noName with colon | unnamed
        · exact noColon colon
        · rw [unnamed] at named
          cases named

/-! ## Fragments -/

theorem ne_nil_of_valueAfter? {key : String} {item value : List Char}
    (noColon : ':' ∉ key.toList) (trimmed : Text.trimChars item = item)
    (noLabel : isLabel item = false) (found : valueAfter? key item = some value) : value ≠ [] := by
  rintro rfl
  rcases eq_of_valueAfter? found with ⟨rest, rfl, empty⟩
  have blank := Text.isBlank_of_trimChars_eq_nil empty.symm
  cases rest using List.reverseRecOn with
  | nil =>
      rw [isLabel_iff.mpr (.inl ⟨key.toList, rfl, noColon⟩)] at noLabel
      cases noLabel
  | append_singleton inside last =>
      have nonempty : Text.trimChars (key.toList ++ ':' :: (inside ++ [last])) ≠ [] := by
        rw [trimmed]
        simp
      have visible := Text.isBlank_getLast_trimChars nonempty
      simp only [trimmed] at visible
      rw [List.getLast_append_of_ne_nil _ (List.cons_ne_nil _ _)] at visible
      simp [blank last (by simp)] at visible

theorem outputCheck_ne_nil (method : String) (argument : List Char) :
    outputCheck method argument ≠ [] := by
  simp [outputCheck]

theorem compileChars_ne_nil {item : List Char} (trimmed : Text.trimChars item = item)
    (nonempty : item ≠ []) (noLabel : isLabel item = false) : compileChars item ≠ [] := by
  rw [compileChars, trimmed, checkOf?]
  cases cel : valueAfter? "cel" item with
  | some value => exact ne_nil_of_valueAfter? (by decide) trimmed noLabel cel
  | none =>
      cases valueAfter? "contains" item with
      | some text => exact outputCheck_ne_nil _ _
      | none =>
          cases valueAfter? "regex" item with
          | some pattern => exact outputCheck_ne_nil _ _
          | none =>
              dsimp only
              split
              · split <;> simp
              · exact nonempty

theorem fragments_eq_map (items : List String) :
    fragments items = (keptItems items).map compileChars := by
  apply List.filter_eq_self.mpr
  intro fragment member
  rcases List.mem_map.mp member with ⟨item, kept, rfl⟩
  rcases mem_keptItems.mp kept with ⟨⟨written, -, rfl⟩, nonempty, noLabel⟩
  simpa using compileChars_ne_nil (Text.trimChars_trimChars _) nonempty noLabel

end LiterateTest.Validation
