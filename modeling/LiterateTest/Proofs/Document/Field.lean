import LiterateTest.Document.FrontMatter

/-! The fields of front matter, which are set one after the other while the text is read: what one
entry does, and what becomes of all of them. -/

namespace LiterateTest

open Yaml (Node)

/-! ## Runs that may fail -/

section

variable {α β ε : Type} {step : β → α → Except ε β}

theorem foldlM_eq_error_iff {items : List α} {start : β} {fault : ε} :
    items.foldlM step start = .error fault ↔
      ∃ before item after reached, items = before ++ item :: after ∧
        before.foldlM step start = .ok reached ∧ step reached item = .error fault := by
  constructor
  · intro failed
    induction items generalizing start with
    | nil => cases failed
    | cons item rest induction =>
        rw [List.foldlM_cons] at failed
        cases first : step start item with
        | error own =>
            rw [first] at failed
            cases failed
            exact ⟨[], item, rest, start, rfl, rfl, first⟩
        | ok next =>
            rw [first] at failed
            obtain ⟨before, other, after, reached, rfl, run, last⟩ := induction failed
            refine ⟨item :: before, other, after, reached, rfl, ?_, last⟩
            rw [List.foldlM_cons, first]
            exact run
  · rintro ⟨before, item, after, reached, rfl, run, last⟩
    rw [List.foldlM_append, run]
    change ((item :: after).foldlM step reached) = _
    rw [List.foldlM_cons, last]
    rfl

end

/-! ## Entries -/

section

variable {Matter : Type} {known : List String} {write : Matter → String × Node → Except Fault Matter}

/-- What becomes of an entry, by its name and by the names before it. -/
inductive Enters (known : List String) (write : Matter → String × Node → Except Fault Matter)
    (state : List String × Matter) (entry : Node × Node) :
    Except Fault (List String × Matter) → Prop
  | unnamed (key : entry.1.text? = none) : Enters known write state entry (.error .malformedYaml)
  | unknown {name : String} (key : entry.1.text? = some name) (isUnknown : name ∉ known) :
      Enters known write state entry (.ok state)
  | repeated {name : String} (key : entry.1.text? = some name) (isKnown : name ∈ known)
      (seen : name ∈ state.1) : Enters known write state entry (.error .malformedYaml)
  | refused {name : String} {fault : Fault} (key : entry.1.text? = some name)
      (isKnown : name ∈ known) (fresh : name ∉ state.1)
      (failed : write state.2 (name, entry.2) = .error fault) :
      Enters known write state entry (.error fault)
  | written {name : String} {matter : Matter} (key : entry.1.text? = some name)
      (isKnown : name ∈ known) (fresh : name ∉ state.1)
      (succeeded : write state.2 (name, entry.2) = .ok matter) :
      Enters known write state entry (.ok (name :: state.1, matter))

theorem enterField_fresh {state : List String × Matter} {entry : Node × Node} {name : String}
    (key : entry.1.text? = some name) (isKnown : name ∈ known) (fresh : name ∉ state.1) :
    enterField known write state entry =
      (write state.2 (name, entry.2)).map fun matter => (name :: state.1, matter) := by
  rw [enterField, key]
  change (if !known.contains name then _ else if state.1.contains name then _ else _) = _
  rw [List.contains_iff_mem.mpr isKnown, List.contains_eq_mem, decide_eq_false fresh]
  rfl

theorem enters_enterField (state : List String × Matter) (entry : Node × Node) :
    Enters known write state entry (enterField known write state entry) := by
  cases key : entry.1.text? with
  | none =>
      rw [enterField, key]
      exact .unnamed key
  | some name =>
      by_cases isKnown : name ∈ known
      · by_cases seen : name ∈ state.1
        · rw [enterField, key]
          change Enters known write state entry (if !known.contains name then _ else _)
          rw [List.contains_iff_mem.mpr isKnown, List.contains_iff_mem.mpr seen]
          exact .repeated key isKnown seen
        · rw [enterField_fresh key isKnown seen]
          cases result : write state.2 (name, entry.2) with
          | error fault => exact .refused key isKnown seen result
          | ok matter => exact .written key isKnown seen result
      · rw [enterField, key]
        change Enters known write state entry (if !known.contains name then _ else _)
        rw [List.contains_eq_mem, decide_eq_false isKnown]
        exact .unknown key isKnown

theorem mem_seen_iff {entries : List (Node × Node)} {start reached : List String × Matter}
    (run : entries.foldlM (enterField known write) start = .ok reached) {name : String}
    (isKnown : name ∈ known) :
    name ∈ reached.1 ↔ name ∈ start.1 ∨ ∃ entry ∈ entries, entry.1.text? = some name := by
  induction entries generalizing start with
  | nil =>
      cases run
      simp
  | cons entry rest induction =>
      rw [List.foldlM_cons] at run
      have enters := @enters_enterField _ known write start entry
      generalize enterField known write start entry = outcome at enters run
      cases enters with
      | unnamed | repeated | refused => cases run
      | @unknown other key isUnknown =>
          have different : other ≠ name := fun same => isUnknown (same ▸ isKnown)
          rw [induction run]
          simp [key, different]
      | @written other matter key =>
          rw [induction run]
          simp [key, eq_comm, or_assoc, or_left_comm]

theorem foldlM_enterField_kept {Holds : Matter → Prop}
    (kept : ∀ {matter next field}, Holds matter → write matter field = .ok next → Holds next)
    {entries : List (Node × Node)} {start reached : List String × Matter} (holds : Holds start.2)
    (run : entries.foldlM (enterField known write) start = .ok reached) : Holds reached.2 := by
  induction entries generalizing start with
  | nil =>
      cases run
      exact holds
  | cons entry rest induction =>
      rw [List.foldlM_cons] at run
      have enters := @enters_enterField _ known write start entry
      generalize enterField known write start entry = outcome at enters run
      cases enters with
      | unnamed | repeated | refused => cases run
      | unknown => exact induction holds run
      | written _ _ _ succeeded => exact induction (kept holds succeeded) run

/-! ## Texts -/

/-- Front matter is blank, or fails at an entry, or is malformed behind its entries, or is read. -/
theorem readFields_cases (default : Matter) (yaml : String) :
    let reading := Yaml.Reading.ofText yaml
    let run := reading.entries.foldlM (enterField known write) ([], default)
    (Text.isBlankText yaml = true ∧ readFields known write default yaml = .ok default) ∨
      Text.isBlankText yaml = false ∧
        ((∃ fault, run = .error fault ∧ readFields known write default yaml = .error fault) ∨
          ∃ reached, run = .ok reached ∧
            readFields known write default yaml =
              if reading.isWhole then .ok reached.2 else .error .malformedYaml) := by
  intro reading run
  rw [readFields]
  cases blank : Text.isBlankText yaml with
  | true => exact .inl ⟨rfl, rfl⟩
  | false =>
      refine .inr ⟨rfl, ?_⟩
      change (∃ fault, _ ∧ (run >>= _) = _) ∨ ∃ reached, _ ∧ (run >>= _) = _
      cases outcome : run with
      | error fault => exact .inl ⟨fault, rfl, rfl⟩
      | ok reached => exact .inr ⟨reached, rfl, rfl⟩

theorem readFields_kept {Holds : Matter → Prop}
    (kept : ∀ {matter next field}, Holds matter → write matter field = .ok next → Holds next)
    {default matter : Matter} (holds : Holds default) {yaml : String}
    (read : readFields known write default yaml = .ok matter) : Holds matter := by
  rcases readFields_cases default yaml with
    ⟨-, result⟩ | ⟨-, ⟨fault, -, result⟩ | ⟨reached, run, result⟩⟩
  · rw [result] at read
    cases read
    exact holds
  · rw [result] at read
    cases read
  · rw [result] at read
    split at read
    · cases read
      exact foldlM_enterField_kept kept holds run
    · cases read

end

end LiterateTest
