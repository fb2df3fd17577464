import Mathlib.Data.List.Forall2

/-! Computations for each item of a list, which can fail. -/

namespace LiterateTest

section

variable {ε α β : Type} {change : α → Except ε β} {items : List α}

theorem mapM_eq_ok_iff {all : List β} :
    items.mapM change = .ok all ↔
      List.Forall₂ (fun item changed => change item = .ok changed) items all := by
  constructor
  · intro ok
    induction items generalizing all with
    | nil =>
        cases ok
        exact .nil
    | cons item rest induction =>
        rw [List.mapM_cons] at ok
        cases own : change item with
        | error fault =>
            rw [own] at ok
            cases ok
        | ok first =>
            cases others : rest.mapM change with
            | error fault =>
                rw [own, others] at ok
                cases ok
            | ok more =>
                rw [own, others] at ok
                cases ok
                exact .cons own (induction others)
  · intro each
    induction each with
    | nil => rfl
    | cons own others induction =>
        rw [List.mapM_cons, own, induction]
        rfl

theorem exists_of_mapM {all : List β} (ok : items.mapM change = .ok all) :
    ∀ item ∈ items, ∃ changed, change item = .ok changed := by
  intro item member
  rcases List.mem_iff_getElem.mp member with ⟨place, inside, rfl⟩
  have each := mapM_eq_ok_iff.mp ok
  exact ⟨_, each.get inside (each.length_eq ▸ inside)⟩

theorem exists_mapM {Holds : α → β → Prop}
    (each : ∀ item ∈ items, ∃ changed, change item = .ok changed ∧ Holds item changed) :
    ∃ all, items.mapM change = .ok all ∧ List.Forall₂ Holds items all := by
  induction items with
  | nil => exact ⟨[], rfl, .nil⟩
  | cons item rest induction =>
      rcases each item List.mem_cons_self with ⟨changed, found, holds⟩
      rcases induction fun other member => each other (List.mem_cons_of_mem _ member) with
        ⟨all, others, allHold⟩
      refine ⟨changed :: all, ?_, .cons holds allHold⟩
      rw [List.mapM_cons, found, others]
      rfl

theorem mapM_foldl {σ : Type} (change : α → Except ε β) (add : σ → β → σ) (start : σ)
    (items : List α) :
    (items.mapM change).map (fun all => all.foldl add start) =
      items.foldlM (fun state item => (change item).map (add state)) start := by
  induction items generalizing start with
  | nil => rfl
  | cons item rest induction =>
      rw [List.mapM_cons, List.foldlM_cons]
      cases change item with
      | error fault => rfl
      | ok first =>
          change _ = rest.foldlM _ (add start first)
          rw [← induction]
          cases rest.mapM change <;> rfl

end

end LiterateTest
