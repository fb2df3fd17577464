import LiterateTest.Proofs.Expression.Comparison
import LiterateTest.Proofs.Record

/-! Equality of values. Any two values are equal or not, whichever of them comes first, and each is
equal to itself. -/

namespace LiterateTest

/-- Values in which each map has its keys in order, each of them once. Maps that are made by
entering keys are such. -/
inductive Json.IsSorted : Json → Prop
  | null : IsSorted .null
  | bool (value : Bool) : IsSorted (.bool value)
  | number (value : Number) : IsSorted (.number value)
  | string (value : String) : IsSorted (.string value)
  | list {items : List Json} (inside : ∀ item ∈ items, IsSorted item) : IsSorted (.list items)
  | map {entries : Record Json} (sorted : entries.keys.Pairwise (· < ·))
      (inside : ∀ entry ∈ entries, IsSorted entry.2) : IsSorted (.map entries)

namespace Expression

open Float.Model UnpackedFloat

/-! ## Numbers -/

theorem exists_compare {first second : UnpackedFloat} (finite : first.isFinite = true)
    (finiteSecond : second.isFinite = true) : ∃ ordering, first.compare second = some ordering := by
  cases first with
  | infinity | notANumber => cases finite
  | zero sign =>
      cases second with
      | infinity | notANumber => cases finiteSecond
      | zero other => exact ⟨_, rfl⟩
      | finite other => cases other <;> exact ⟨_, rfl⟩
  | finite sign =>
      cases second with
      | infinity | notANumber => cases finiteSecond
      | zero other => cases sign <;> exact ⟨_, rfl⟩
      | finite other => cases sign <;> cases other <;> exact ⟨_, rfl⟩

theorem compare_self {unpacked : UnpackedFloat} (finite : unpacked.isFinite = true) :
    unpacked.compare unpacked = some .eq := by
  rcases exists_compare finite finite with ⟨ordering, compared⟩
  have swapped := Double.compare_swap unpacked unpacked
  rw [compared, Option.map_some, Option.some.injEq] at swapped
  cases ordering with
  | eq => exact compared
  | lt | gt => cases swapped

theorem isFinite_toFloat (number : Number) : number.toFloat.toModel.unpack.isFinite = true := by
  cases number with
  | int value fits => exact (Double.means_ofInt fits).isFinite
  | float value finite => exact finite

theorem exists_compareNumbers? (left right : Number) :
    ∃ ordering, compareNumbers? left right = some ordering := by
  rw [compareNumbers?]
  split
  · exact ⟨_, rfl⟩
  · rw [compareFloats?_eq]
    exact exists_compare (isFinite_toFloat left) (isFinite_toFloat right)

theorem compareNumbers?_swap (left right : Number) :
    compareNumbers? right left = (compareNumbers? left right).map Ordering.swap := by
  have doubles : compareFloats? right.toFloat left.toFloat =
      (compareFloats? left.toFloat right.toFloat).map Ordering.swap := by
    rw [compareFloats?_eq, compareFloats?_eq, Double.compare_swap]
  rw [compareNumbers?, compareNumbers?]
  cases left.signed? with
  | none => cases right.signed? <;> exact doubles
  | some first =>
      cases right.signed? with
      | none => exact doubles
      | some second => exact congrArg some Std.OrientedOrd.eq_swap

theorem numbersEqual_self (number : Number) : numbersEqual number number = true := by
  rw [numbersEqual_eq, compareNumbers?]
  cases number.signed? with
  | some integer => simp
  | none =>
      rw [compareFloats?_eq, compare_self (isFinite_toFloat number)]
      rfl

theorem numbersEqual_comm (left right : Number) :
    numbersEqual left right = numbersEqual right left := by
  rw [numbersEqual_eq, numbersEqual_eq, compareNumbers?_swap left right]
  rcases exists_compareNumbers? left right with ⟨ordering, compared⟩
  rw [compared]
  cases ordering <;> rfl

/-! ## Equality -/

theorem itemsEqual_self {items : List Json} (same : ∀ item ∈ items, valuesEqual item item = true) :
    itemsEqual items items = true := by
  induction items with
  | nil => rfl
  | cons item rest induction =>
      rw [itemsEqual, same item List.mem_cons_self, Bool.true_and]
      exact induction fun other member => same other (List.mem_cons_of_mem item member)

theorem itemsEqual_comm {lefts rights : List Json}
    (alike : ∀ left ∈ lefts, ∀ right ∈ rights, valuesEqual left right = valuesEqual right left) :
    itemsEqual lefts rights = itemsEqual rights lefts := by
  induction lefts generalizing rights with
  | nil => cases rights <;> rfl
  | cons left lefts induction =>
      cases rights with
      | nil => rfl
      | cons right rights =>
          have others := induction fun left member right memberRight =>
            alike left (List.mem_cons_of_mem _ member) right (List.mem_cons_of_mem _ memberRight)
          rw [itemsEqual, itemsEqual, others,
            alike left List.mem_cons_self right List.mem_cons_self]

theorem entriesEqual_iff {lefts rights : Record Json} :
    entriesEqual lefts rights = true ↔
      ∀ entry ∈ lefts, ∃ right, Record.get? entry.1 rights = some right ∧
        valuesEqual entry.2 right = true := by
  induction lefts with
  | nil => simp [entriesEqual]
  | cons entry lefts induction =>
      rcases entry with ⟨key, left⟩
      rw [entriesEqual, Bool.and_eq_true, induction, List.forall_mem_cons]
      cases Record.get? key rights <;> simp

theorem entriesEqual_self {entries : Record Json} (sorted : entries.keys.Pairwise (· < ·))
    (same : ∀ entry ∈ entries, valuesEqual entry.2 entry.2 = true) :
    entriesEqual entries entries = true :=
  entriesEqual_iff.mpr fun entry member =>
    ⟨entry.2, Record.get?_of_mem sorted member, same entry member⟩

theorem entriesEqual_swap {lefts rights : Record Json} (sorted : lefts.keys.Pairwise (· < ·))
    (sortedRight : rights.keys.Pairwise (· < ·)) (sameSize : lefts.length = rights.length)
    (alike : ∀ left ∈ lefts, ∀ right ∈ rights,
      valuesEqual left.2 right.2 = true → valuesEqual right.2 left.2 = true)
    (equal : entriesEqual lefts rights = true) : entriesEqual rights lefts = true := by
  rw [entriesEqual_iff] at equal ⊢
  have subset : lefts.keys ⊆ rights.keys := by
    intro key member
    rcases List.mem_map.mp member with ⟨entry, entryMember, rfl⟩
    rcases equal entry entryMember with ⟨right, found, -⟩
    exact Record.mem_keys_of_get? found
  rintro ⟨key, right⟩ member
  have isKey := Record.keys_subset sorted subset sameSize (List.mem_map_of_mem member)
  rcases List.mem_map.mp isKey with ⟨⟨key, left⟩, leftMember, rfl⟩
  rcases equal (key, left) leftMember with ⟨found, isFound, isEqual⟩
  cases (Record.get?_of_mem sortedRight member).symm.trans isFound
  exact ⟨left, Record.get?_of_mem sorted leftMember,
    alike (key, left) leftMember (key, right) member isEqual⟩

theorem entriesEqual_comm {lefts rights : Record Json} (sorted : lefts.keys.Pairwise (· < ·))
    (sortedRight : rights.keys.Pairwise (· < ·)) (sameSize : lefts.length = rights.length)
    (alike : ∀ left ∈ lefts, ∀ right ∈ rights,
      valuesEqual left.2 right.2 = valuesEqual right.2 left.2) :
    entriesEqual lefts rights = entriesEqual rights lefts := by
  rw [Bool.eq_iff_iff]
  constructor
  · apply entriesEqual_swap sorted sortedRight sameSize
    intro left member right memberRight equal
    rw [← alike left member right memberRight, equal]
  · apply entriesEqual_swap sortedRight sorted sameSize.symm
    intro right memberRight left member equal
    rw [alike left member right memberRight, equal]

theorem valuesEqual_self {value : Json} (sorted : value.IsSorted) :
    valuesEqual value value = true := by
  induction sorted with
  | null => rfl
  | bool value => exact beq_self_eq_true value
  | number value => exact numbersEqual_self value
  | string value => exact beq_self_eq_true value
  | list inside induction =>
      rw [valuesEqual]
      exact itemsEqual_self induction
  | map sorted inside induction =>
      rw [valuesEqual, beq_self_eq_true, Bool.true_and]
      exact entriesEqual_self sorted induction

theorem valuesEqual_comm {left right : Json} (sorted : left.IsSorted)
    (sortedRight : right.IsSorted) : valuesEqual left right = valuesEqual right left := by
  induction sorted generalizing right with
  | null => cases sortedRight <;> rfl
  | bool value =>
      cases sortedRight with
      | bool other => exact Bool.beq_comm
      | _ => rfl
  | number value =>
      cases sortedRight with
      | number other => exact numbersEqual_comm value other
      | _ => rfl
  | string value =>
      cases sortedRight with
      | string other => exact BEq.comm
      | _ => rfl
  | list inside induction =>
      cases sortedRight with
      | list insideRight =>
          rw [valuesEqual, valuesEqual]
          apply itemsEqual_comm
          intro item member other memberOther
          exact induction item member (insideRight other memberOther)
      | _ => rfl
  | @map entries sorted inside induction =>
      cases sortedRight with
      | @map others sortedOthers insideRight =>
          rw [valuesEqual, valuesEqual]
          by_cases sameSize : entries.length = others.length
          · have same : entriesEqual entries others = entriesEqual others entries := by
              apply entriesEqual_comm sorted sortedOthers sameSize
              intro entry member other memberOther
              exact induction entry member (insideRight other memberOther)
            rw [same, sameSize]
          · rw [beq_false_of_ne sameSize, beq_false_of_ne (Ne.symm sameSize), Bool.false_and,
              Bool.false_and]
      | _ => rfl

end Expression

end LiterateTest
