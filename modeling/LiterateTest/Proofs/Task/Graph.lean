import LiterateTest.Task.Group

/-! Graphs of tasks that are each listed once: every task keeps the dependencies it was listed
with, and a task is ready when all of them are finished. -/

namespace LiterateTest

namespace TaskGraph

variable {α : Type} [DecidableEq α]

/-! ## Entries -/

theorem filter_eq_nil_of_fresh {tasks : List (α × List α)} {task : α}
    (fresh : task ∉ tasks.map Prod.fst) :
    (tasks.filter fun entry => entry.1 = task) = [] := by
  apply List.filter_eq_nil_iff.mpr
  intro entry member same
  have equal : entry.1 = task := by simpa using same
  exact fresh (equal ▸ List.mem_map_of_mem member)

theorem filter_eq_singleton {tasks : List (α × List α)}
    (distinct : (tasks.map Prod.fst).Nodup) {task : α} {dependencies : List α}
    (member : (task, dependencies) ∈ tasks) :
    (tasks.filter fun entry => entry.1 = task) = [(task, dependencies)] := by
  induction tasks with
  | nil => cases member
  | cons head tail induction =>
      rw [List.map_cons, List.nodup_cons] at distinct
      rcases List.mem_cons.mp member with equal | member
      · subst head
        rw [List.filter_cons_of_pos (by simp), filter_eq_nil_of_fresh distinct.1]
      · have different : head.1 ≠ task := by
          intro same
          exact distinct.1 (same ▸ List.mem_map_of_mem member)
        rw [List.filter_cons_of_neg (by simpa using different)]
        exact induction distinct.2 member

theorem collect_of_mem {tasks : List (α × List α)}
    (distinct : (tasks.map Prod.fst).Nodup) {task : α} {dependencies : List α}
    (member : (task, dependencies) ∈ tasks) :
    collect tasks task = dependencies.reverse := by
  rw [collect, filter_eq_singleton distinct member]
  simp

theorem entriesOf_eq_map {tasks : List (α × List α)}
    (distinct : (tasks.map Prod.fst).Nodup) :
    entriesOf tasks tasks = tasks.map fun entry => (entry.1, entry.2.reverse) := by
  suffices general : ∀ part : List (α × List α), (part.map Prod.fst).Nodup → part ⊆ tasks →
      entriesOf tasks part = part.map fun entry => (entry.1, entry.2.reverse) from
    general tasks distinct (List.Subset.refl tasks)
  intro part
  induction part with
  | nil => intros; rfl
  | cons head tail induction =>
      intro partDistinct contained
      rw [List.map_cons, List.nodup_cons] at partDistinct
      have last : tail.any (fun entry => entry.1 = head.1) = false := by
        apply List.any_eq_false.mpr
        intro entry member same
        have equal : entry.1 = head.1 := by simpa using same
        exact partDistinct.1 (equal ▸ List.mem_map_of_mem member)
      have own := collect_of_mem distinct (contained List.mem_cons_self)
      have rest := induction partDistinct.2 fun entry member =>
        contained (List.mem_cons_of_mem head member)
      simp [entriesOf, last, own, rest]

theorem ofTasks_eq_ok {tasks : List (α × List α)} (distinct : (tasks.map Prod.fst).Nodup)
    (known : ∀ entry ∈ tasks, ∀ dependency ∈ entry.2, dependency ∈ tasks.map Prod.fst) :
    ofTasks tasks = .ok { entries := tasks.map fun entry => (entry.1, entry.2.reverse) } := by
  have none : unknown? tasks = none := by
    apply List.find?_eq_none.mpr
    intro dependency member
    rcases List.mem_flatMap.mp member with ⟨entry, entryMember, inEntry⟩
    simpa using known entry entryMember dependency inEntry
  rw [ofTasks, none, ← entriesOf_eq_map distinct]

/-- A dependency that is no task is named if there is one. -/
theorem ofTasks_eq_error {tasks : List (α × List α)} {entry : α × List α} {dependency : α}
    (entryMember : entry ∈ tasks) (inEntry : dependency ∈ entry.2)
    (foreign : dependency ∉ tasks.map Prod.fst) :
    ∃ named, ofTasks tasks = .error named ∧ named ∉ tasks.map Prod.fst ∧
      ∃ entry ∈ tasks, named ∈ entry.2 := by
  cases found : unknown? tasks with
  | none =>
      have all := List.find?_eq_none.mp found dependency
        (List.mem_flatMap.mpr ⟨entry, entryMember, inEntry⟩)
      simp at all foreign
      rcases all with ⟨listed, listedMember⟩
      exact absurd listedMember (foreign listed)
  | some named =>
      refine ⟨named, by rw [ofTasks, found], ?_, ?_⟩
      · intro listed
        rcases List.mem_map.mp listed with ⟨entry, member, rfl⟩
        have unlisted := List.find?_some found
        simp at unlisted
        exact unlisted entry.1 entry.2 member rfl
      · rcases List.mem_flatMap.mp (List.mem_of_find?_eq_some found) with
          ⟨entry, entryMember, inEntry⟩
        exact ⟨entry, entryMember, inEntry⟩

/-! ## Graphs whose entries are of different tasks -/

theorem dependencies_of_mem {graph : TaskGraph α}
    (distinct : (graph.entries.map Prod.fst).Nodup) {task : α} {dependencies : List α}
    (member : (task, dependencies) ∈ graph.entries) :
    graph.dependencies task = dependencies := by
  have reversed : (graph.entries.reverse.map Prod.fst).Nodup := by
    rw [List.map_reverse]
    exact List.pairwise_reverse.mpr (distinct.imp Ne.symm)
  have single := filter_eq_singleton reversed (List.mem_reverse.mpr member)
  rw [TaskGraph.dependencies, ← List.head?_filter, single]
  rfl

theorem mem_ready {graph : TaskGraph α} (distinct : (graph.entries.map Prod.fst).Nodup)
    {finished : List α} {task : α} :
    task ∈ graph.ready finished ↔
      task ∈ graph.entries.map Prod.fst ∧ task ∉ finished ∧
        ∀ dependency ∈ graph.dependencies task, dependency ∈ finished := by
  constructor
  · intro member
    rcases List.mem_map.mp member with ⟨entry, entryMember, rfl⟩
    have kept := List.mem_filter.mp entryMember
    have own := dependencies_of_mem distinct kept.1
    refine ⟨List.mem_map_of_mem kept.1, ?_⟩
    rw [own]
    simpa using kept.2
  · rintro ⟨listed, unfinished, satisfied⟩
    rcases List.mem_map.mp listed with ⟨entry, entryMember, rfl⟩
    rw [dependencies_of_mem distinct entryMember] at satisfied
    apply List.mem_map_of_mem
    apply List.mem_filter.mpr
    exact ⟨entryMember, by simpa using ⟨unfinished, satisfied⟩⟩

/-! ## Order -/

theorem reachable_lt {graph : TaskGraph Nat}
    (descending : ∀ task, ∀ dependency ∈ graph.dependencies task, dependency < task)
    (steps bound : Nat) {tasks : List Nat} (below : ∀ task ∈ tasks, task < bound) :
    ∀ task ∈ graph.reachable steps tasks, task < bound := by
  induction steps generalizing tasks with
  | zero => exact below
  | succ steps induction =>
      intro task member
      simp only [reachable] at member
      split at member
      · exact below task member
      · rcases List.mem_append.mp member with member | member
        · exact below task member
        · refine induction ?_ task member
          intro next nextMember
          rcases List.mem_flatMap.mp (List.mem_eraseDups.mp nextMember) with
            ⟨waiting, waitingMember, dependency⟩
          exact Nat.lt_trans (descending waiting next dependency) (below waiting waitingMember)

theorem hasCycle_eq_false {graph : TaskGraph Nat}
    (distinct : (graph.entries.map Prod.fst).Nodup)
    (descending : ∀ task, ∀ dependency ∈ graph.dependencies task, dependency < task) :
    graph.hasCycle = false := by
  apply List.any_eq_false.mpr
  intro entry member cyclic
  have own := dependencies_of_mem distinct member
  have below : ∀ dependency ∈ entry.2, dependency < entry.1 := by
    rw [← own]
    exact descending entry.1
  have smaller := reachable_lt descending graph.size entry.1 below entry.1 (by simpa using cyclic)
  exact Nat.lt_irrefl _ smaller

end TaskGraph

end LiterateTest
