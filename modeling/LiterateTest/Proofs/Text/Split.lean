import LiterateTest.Text.Basic
import Mathlib.Data.List.Basic

/-! Splitting at a single character, as the lists of core do it, and putting the pieces together
again. -/

namespace LiterateTest.Text

theorem splitOn_cons (mark c : Char) (rest : List Char) :
    (c :: rest).splitOn mark =
      if c = mark then [] :: rest.splitOn mark else (rest.splitOn mark).modifyHead (List.cons c) := by
  rw [List.splitOn, List.splitOnP_cons_eq_if_modifyHead, List.splitOn]
  simp only [beq_iff_eq]

theorem splitFrom_single (mark : Char) (current text : List Char) :
    splitFrom [mark] current 0 text = (text.splitOn mark).modifyHead (current.reverse ++ ·) := by
  induction text generalizing current with
  | nil => simp [splitFrom]
  | cons c rest induction =>
      rcases List.exists_cons_of_ne_nil (List.splitOn_ne_nil mark rest) with ⟨first, others, pieces⟩
      rw [splitFrom, splitOn_cons]
      change (if [mark].isPrefixOf (c :: rest) then
        current.reverse :: splitFrom [mark] [] 0 rest else _) = _
      by_cases same : c = mark
      · rw [if_pos (by simp [same]), if_pos same, induction, pieces]
        simp
      · rw [if_neg (by simpa using fun other => same other.symm), if_neg same, induction, pieces]
        simp

theorem splitChars_single (mark : Char) (text : List Char) :
    splitChars [mark] text = text.splitOn mark := by
  rw [splitChars, List.isEmpty_cons, if_neg Bool.false_ne_true, splitFrom_single]
  cases text.splitOn mark <;> rfl

theorem not_mem_of_mem_splitOn {mark : Char} {text piece : List Char}
    (member : piece ∈ text.splitOn mark) : mark ∉ piece := by
  induction text generalizing piece with
  | nil =>
      rw [List.splitOn_nil, List.mem_singleton] at member
      rw [member]
      exact List.not_mem_nil
  | cons c rest induction =>
      rw [splitOn_cons] at member
      split at member
      · rcases List.mem_cons.mp member with rfl | member
        · exact List.not_mem_nil
        · exact induction member
      · next other =>
          rcases List.exists_cons_of_ne_nil (List.splitOn_ne_nil mark rest) with
            ⟨first, others, pieces⟩
          rw [pieces, List.modifyHead_cons] at member
          rcases List.mem_cons.mp member with rfl | member
          · have inFirst : mark ∉ first := induction (by rw [pieces]; exact List.mem_cons_self)
            intro found
            rcases List.mem_cons.mp found with rfl | found
            · exact other rfl
            · exact inFirst found
          · exact induction (by rw [pieces]; exact List.mem_cons_of_mem _ member)

theorem exists_mem_of_mem_intercalate {mark c : Char} {pieces : List (List Char)}
    (member : c ∈ [mark].intercalate pieces) (other : c ≠ mark) : ∃ piece ∈ pieces, c ∈ piece := by
  induction pieces with
  | nil => cases member
  | cons first others induction =>
      cases others with
      | nil =>
          rw [List.intercalate_singleton] at member
          exact ⟨first, List.mem_cons_self, member⟩
      | cons second others =>
          rw [List.intercalate_cons_cons, List.append_assoc, List.mem_append,
            List.singleton_append, List.mem_cons] at member
          rcases member with member | same | member
          · exact ⟨first, List.mem_cons_self, member⟩
          · exact absurd same other
          · rcases induction member with ⟨piece, isPiece, inside⟩
            exact ⟨piece, List.mem_cons_of_mem _ isPiece, inside⟩

/-! ## Texts -/

section

variable {separator : String} {mark : Char} (single : separator.toList = [mark])

include single

theorem split_eq (text : String) :
    split text separator = (text.toList.splitOn mark).map String.ofList := by
  rw [split, single, splitChars_single]

theorem split_ne_nil (text : String) : split text separator ≠ [] := by
  rw [split_eq single]
  simp

theorem split_append (front rest : String) :
    split (front ++ separator ++ rest) separator = split front separator ++ split rest separator := by
  rw [split_eq single, split_eq single, split_eq single, String.toList_append,
    String.toList_append, single, List.append_assoc, List.singleton_append,
    List.splitOn_append_cons_self, List.map_append]

theorem not_mem_of_mem_split {text piece : String} (member : piece ∈ split text separator) :
    mark ∉ piece.toList := by
  rw [split_eq single] at member
  rcases List.mem_map.mp member with ⟨chars, isPiece, rfl⟩
  rw [String.toList_ofList]
  exact not_mem_of_mem_splitOn isPiece

theorem exists_mem_split {text : String} {c : Char} (member : c ∈ text.toList) (other : c ≠ mark) :
    ∃ piece ∈ split text separator, c ∈ piece.toList := by
  rw [← @List.intercalate_splitOn _ text.toList _ _ mark] at member
  rcases exists_mem_of_mem_intercalate member other with ⟨piece, isPiece, inside⟩
  refine ⟨String.ofList piece, ?_, by rwa [String.toList_ofList]⟩
  rw [split_eq single]
  exact List.mem_map_of_mem isPiece

theorem joinWith_split (text : String) : joinWith separator (split text separator) = text := by
  rw [← String.toList_inj, joinWith, String.toList_intercalate, split_eq single, List.map_map,
    single]
  have same : String.toList ∘ String.ofList = id := funext fun _ => String.toList_ofList
  rw [same, List.map_id, List.intercalate_splitOn]

theorem split_joinWith {pieces : List String} (apart : ∀ piece ∈ pieces, mark ∉ piece.toList)
    (nonempty : pieces ≠ []) : split (joinWith separator pieces) separator = pieces := by
  have same : String.ofList ∘ String.toList = id := funext fun _ => String.ofList_toList
  rw [split_eq single, joinWith, String.toList_intercalate, single, List.splitOn_intercalate,
    List.map_map, same, List.map_id]
  · intro piece member
    rcases List.mem_map.mp member with ⟨text, isPiece, rfl⟩
    exact apart text isPiece
  · simpa using nonempty

theorem split_of_not_mem {text : String} (absent : mark ∉ text.toList) :
    split text separator = [text] := by
  have alone := @split_joinWith separator mark single [text]
    (fun piece member => by rwa [List.mem_singleton.mp member]) (List.cons_ne_nil _ _)
  rwa [joinWith, String.intercalate_singleton] at alone

end

theorem replace_single {target replacement : String} {mark other : Char}
    (isMark : target.toList = [mark]) (isOther : replacement.toList = [other]) (text : String) :
    (replace text target replacement).toList =
      text.toList.map fun c => if c = mark then other else c := by
  have joined : ∀ chars : List Char, [other].intercalate (chars.splitOn mark) =
      chars.map fun c => if c = mark then other else c := by
    intro chars
    induction chars with
    | nil => rfl
    | cons c rest induction =>
        rcases List.exists_cons_of_ne_nil (List.splitOn_ne_nil mark rest) with
          ⟨first, others, pieces⟩
        rw [List.map_cons, ← induction, splitOn_cons, pieces, List.modifyHead_cons]
        by_cases same : c = mark
        · rw [if_pos same, if_pos same, List.intercalate_cons_cons]
          rfl
        · rw [if_neg same, if_neg same]
          cases others with
          | nil => simp [List.intercalate_singleton]
          | cons second others => simp [List.intercalate_cons_cons]
  have same : String.toList ∘ String.ofList = id := funext fun _ => String.toList_ofList
  rw [replace, joinWith, String.toList_intercalate, split_eq isMark, List.map_map, same,
    List.map_id, isOther, joined]

end LiterateTest.Text
