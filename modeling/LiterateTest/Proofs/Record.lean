import LiterateTest.Record
import Mathlib.Data.List.Perm.Subperm

/-! What is found in a record, and where an entry is put. Records that are made of entries have
their keys in order. -/

namespace LiterateTest.Record

variable {α : Type} {key : String} {value : α} {record : Record α}

theorem mem_of_get? (found : get? key record = some value) : (key, value) ∈ record := by
  induction record with
  | nil => cases found
  | cons entry rest induction =>
      rcases entry with ⟨name, old⟩
      rw [get?] at found
      split at found
      · next same =>
          cases found
          rw [same]
          exact List.mem_cons_self
      · exact List.mem_cons_of_mem _ (induction found)

theorem mem_keys_of_get? (found : get? key record = some value) : key ∈ record.keys :=
  List.mem_map_of_mem (mem_of_get? found)

theorem nodup_keys (sorted : record.keys.Pairwise (· < ·)) : record.keys.Nodup := by
  apply sorted.imp
  rintro key other less rfl
  exact String.lt_irrefl key less

theorem get?_of_mem_of_nodup (distinct : record.keys.Nodup) (member : (key, value) ∈ record) :
    get? key record = some value := by
  induction record with
  | nil => cases member
  | cons entry rest induction =>
      rcases entry with ⟨found, old⟩
      rw [keys, List.map_cons, List.nodup_cons] at distinct
      rcases List.mem_cons.mp member with same | member
      · cases same
        rw [get?, if_pos rfl]
      · have different : found ≠ key := by
          rintro rfl
          exact distinct.1 (List.mem_map.mpr ⟨_, member, rfl⟩)
        rw [get?, if_neg different, induction distinct.2 member]

theorem get?_of_mem (sorted : record.keys.Pairwise (· < ·)) (member : (key, value) ∈ record) :
    get? key record = some value :=
  get?_of_mem_of_nodup (nodup_keys sorted) member

/-! ## Insertion -/

section

variable {found : String} (old : α) (rest : Record α)

theorem insert_cons_of_lt (before : key < found) :
    insert key value ((found, old) :: rest) = (key, value) :: (found, old) :: rest := by
  rw [insert, if_pos before]

theorem insert_cons_self : insert key value ((key, old) :: rest) = (key, value) :: rest := by
  rw [insert, if_neg (String.lt_irrefl key), if_pos rfl]

theorem insert_cons_of_gt (after : found < key) :
    insert key value ((found, old) :: rest) = (found, old) :: insert key value rest := by
  have different : key ≠ found := by
    rintro rfl
    exact String.lt_irrefl _ after
  rw [insert, if_neg (String.lt_asymm after), if_neg different]

end

theorem insert_of_lt (last : ∀ found ∈ record.keys, found < key) :
    insert key value record = record ++ [(key, value)] := by
  induction record with
  | nil => rfl
  | cons entry rest induction =>
      rcases entry with ⟨found, old⟩
      rw [insert_cons_of_gt old rest (last found List.mem_cons_self),
        induction fun other member => last other (List.mem_cons_of_mem found member)]
      rfl

theorem insert_comm_of_lt {first second : String} (less : first < second) (one other : α)
    (record : Record α) :
    insert first one (insert second other record) =
      insert second other (insert first one record) := by
  induction record with
  | nil =>
      change insert first one [(second, other)] = insert second other [(first, one)]
      rw [insert_cons_of_lt other [] less, insert_cons_of_gt one [] less]
      rfl
  | cons entry rest induction =>
      rcases entry with ⟨found, old⟩
      -- The place of the lesser key leaves a choice for the greater one only if it is in front.
      rcases Std.lt_trichotomy first found with before | rfl | after
      · rw [insert_cons_of_lt old rest before, insert_cons_of_gt one _ less]
        rcases Std.lt_trichotomy second found with inside | rfl | behind
        · rw [insert_cons_of_lt old rest inside, insert_cons_of_lt other _ less]
        · rw [insert_cons_self, insert_cons_of_lt other rest less]
        · rw [insert_cons_of_gt old rest behind, insert_cons_of_lt old _ before]
      · rw [insert_cons_of_gt old rest less, insert_cons_self, insert_cons_self,
          insert_cons_of_gt one rest less]
      · have afterSecond : found < second := String.lt_trans after less
        rw [insert_cons_of_gt old rest after, insert_cons_of_gt old rest afterSecond,
          insert_cons_of_gt old _ after, insert_cons_of_gt old _ afterSecond, induction]

theorem insert_comm {first second : String} (different : first ≠ second) (one other : α)
    (record : Record α) :
    insert first one (insert second other record) =
      insert second other (insert first one record) := by
  rcases Std.lt_trichotomy first second with less | same | greater
  · exact insert_comm_of_lt less one other record
  · exact absurd same different
  · exact (insert_comm_of_lt greater other one record).symm

/-! ## Keys -/

theorem get?_eq_none (missing : key ∉ record.keys) : get? key record = none := by
  cases found : get? key record with
  | none => rfl
  | some value => exact absurd (mem_keys_of_get? found) missing

theorem mem_keys_insert {found : String} (member : found ∈ (insert key value record).keys) :
    found = key ∨ found ∈ record.keys := by
  induction record with
  | nil => exact .inl (List.mem_singleton.mp member)
  | cons entry rest induction =>
      rcases entry with ⟨first, old⟩
      rcases Std.lt_trichotomy key first with before | rfl | after
      · rw [insert_cons_of_lt old rest before] at member
        exact List.mem_cons.mp member
      · rw [insert_cons_self] at member
        exact .inr member
      · rw [insert_cons_of_gt old rest after] at member
        rcases List.mem_cons.mp member with same | member
        · exact .inr (same ▸ List.mem_cons_self)
        · exact (induction member).imp_right (List.mem_cons_of_mem first)

theorem sorted_insert (key : String) (value : α) (sorted : record.keys.Pairwise (· < ·)) :
    (insert key value record).keys.Pairwise (· < ·) := by
  induction record with
  | nil => exact List.pairwise_singleton _ key
  | cons entry rest induction =>
      rcases entry with ⟨first, old⟩
      have parts := List.pairwise_cons.mp sorted
      rcases Std.lt_trichotomy key first with before | rfl | after
      · rw [insert_cons_of_lt old rest before]
        apply List.Pairwise.cons _ sorted
        intro later member
        rcases List.mem_cons.mp member with rfl | member
        · exact before
        · exact String.lt_trans before (parts.1 later member)
      · rw [insert_cons_self]
        exact sorted
      · rw [insert_cons_of_gt old rest after]
        apply List.Pairwise.cons _ (induction parts.2)
        intro later member
        rcases mem_keys_insert member with rfl | member
        · exact after
        · exact parts.1 later member

theorem sorted_extend (additions : Record α) (sorted : record.keys.Pairwise (· < ·)) :
    (record.extend additions).keys.Pairwise (· < ·) := by
  induction additions generalizing record with
  | nil => exact sorted
  | cons entry rest induction => exact induction (sorted_insert entry.1 entry.2 sorted)

theorem sorted_ofList (entries : List (String × α)) : (ofList entries).keys.Pairwise (· < ·) :=
  sorted_extend entries .nil

theorem keys_subset {other : Record α} (sorted : record.keys.Pairwise (· < ·))
    (subset : record.keys ⊆ other.keys) (sameSize : record.length = other.length) :
    other.keys ⊆ record.keys := by
  have sameLength : other.keys.length = record.keys.length := by
    rw [keys, keys, List.length_map, List.length_map, sameSize]
  have subperm := List.subperm_of_subset (nodup_keys sorted) subset
  exact (subperm.perm_of_length_le (Nat.le_of_eq sameLength)).symm.subset

theorem get?_append (key : String) (first second : Record α) :
    get? key (first ++ second) = (get? key first).or (get? key second) := by
  induction first with
  | nil => rfl
  | cons entry rest induction =>
      rcases entry with ⟨found, value⟩
      rw [List.cons_append, get?, get?, induction]
      split <;> rfl

theorem get?_map {β : Type} (transform : α → β) (key : String) (record : Record α) :
    get? key (record.map fun (found, value) => (found, transform value)) =
      (get? key record).map transform := by
  induction record with
  | nil => rfl
  | cons entry rest induction =>
      rcases entry with ⟨found, value⟩
      rw [List.map_cons, get?, get?, induction]
      split <;> rfl

/-- Of the entries that are added, the last one under a key wins. -/
theorem get?_extend_reverse (key : String) (record additions : Record α) :
    get? key (record.extend additions) = (get? key additions.reverse).or (get? key record) := by
  induction additions generalizing record with
  | nil => rfl
  | cons entry rest induction =>
      rcases entry with ⟨found, value⟩
      change get? key ((insert found value record).extend rest) = _
      rw [induction, List.reverse_cons, get?_append, Option.or_assoc, get?, get?]
      split
      · next same => rw [same, get?_insert_self]; rfl
      · next different => rw [get?_insert_of_ne different]; rfl

theorem get?_reverse (distinct : record.keys.Nodup) (key : String) :
    get? key record.reverse = get? key record := by
  induction record with
  | nil => rfl
  | cons entry rest induction =>
      rcases entry with ⟨found, value⟩
      rw [keys, List.map_cons, List.nodup_cons] at distinct
      rw [List.reverse_cons, get?_append, induction distinct.2, get?, get?, get?]
      split
      · next same => rw [get?_eq_none (same ▸ distinct.1)]; rfl
      · exact Option.or_none

theorem get?_extend {additions : Record α} (sorted : additions.keys.Pairwise (· < ·))
    (key : String) (record : Record α) :
    get? key (record.extend additions) = (get? key additions).or (get? key record) := by
  rw [get?_extend_reverse, get?_reverse (nodup_keys sorted)]

end LiterateTest.Record
