import LiterateTest.Proofs.Task.Graph
import Mathlib.Data.Finset.Card
import Mathlib.Data.List.Nodup
import Mathlib.Logic.Relation

/-! Progress of graphs of tasks. While tasks are left, one of them is ready, unless tasks wait for
each other in a circle; then some set of finished tasks leaves a rest of which none is ready. -/

namespace LiterateTest.TaskGraph

variable {α : Type} [DecidableEq α] {tasks : List (α × List α)} {graph : TaskGraph α}

def DependsOn (tasks : List (α × List α)) (task dependency : α) : Prop :=
  ∃ entry ∈ tasks, entry.1 = task ∧ dependency ∈ entry.2

/-! ## The graph of listed tasks -/

theorem known_of_ofTasks (built : ofTasks tasks = .ok graph) :
    ∀ entry ∈ tasks, ∀ dependency ∈ entry.2, dependency ∈ tasks.map Prod.fst := by
  intro entry member dependency isDependency
  by_contra foreign
  rcases ofTasks_eq_error member isDependency foreign with ⟨named, isError, _⟩
  rw [isError] at built
  cases built

theorem entries_of_ofTasks (distinct : (tasks.map Prod.fst).Nodup)
    (built : ofTasks tasks = .ok graph) :
    graph.entries = tasks.map fun entry => (entry.1, entry.2.reverse) := by
  have same := ofTasks_eq_ok distinct (known_of_ofTasks built)
  rw [built] at same
  cases same
  rfl

theorem names_of_ofTasks (distinct : (tasks.map Prod.fst).Nodup)
    (built : ofTasks tasks = .ok graph) :
    graph.entries.map Prod.fst = tasks.map Prod.fst := by
  rw [entries_of_ofTasks distinct built, List.map_map]
  rfl

theorem listed_of_mem_dependencies {task dependency : α}
    (depends : dependency ∈ graph.dependencies task) :
    ∃ entry ∈ graph.entries, entry.1 = task ∧ dependency ∈ entry.2 := by
  rw [TaskGraph.dependencies] at depends
  cases found : graph.entries.reverse.find? fun entry => entry.1 = task with
  | none => simp [found] at depends
  | some entry =>
      have same : entry.1 = task := by simpa using List.find?_some found
      have member := List.mem_reverse.mp (List.mem_of_find?_eq_some found)
      rw [found] at depends
      exact ⟨entry, member, same, depends⟩

theorem mem_dependencies_iff (distinct : (tasks.map Prod.fst).Nodup)
    (built : ofTasks tasks = .ok graph) {task dependency : α} :
    dependency ∈ graph.dependencies task ↔ DependsOn tasks task dependency := by
  have entries := entries_of_ofTasks distinct built
  constructor
  · intro depends
    rcases listed_of_mem_dependencies depends with ⟨entry, member, same, inside⟩
    rw [entries] at member
    rcases List.mem_map.mp member with ⟨own, listed, rfl⟩
    exact ⟨own, listed, same, List.mem_reverse.mp inside⟩
  · rintro ⟨entry, listed, rfl, inside⟩
    have member : (entry.1, entry.2.reverse) ∈ graph.entries := by
      rw [entries]
      exact List.mem_map_of_mem listed
    rw [dependencies_of_mem (by rwa [names_of_ofTasks distinct built]) member]
    exact List.mem_reverse.mpr inside

theorem ready_eq (distinct : (tasks.map Prod.fst).Nodup) (built : ofTasks tasks = .ok graph)
    (finished : List α) :
    graph.ready finished =
      (tasks.filter fun entry =>
        entry.1 ∉ finished ∧ ∀ dependency ∈ entry.2, dependency ∈ finished).map Prod.fst := by
  rw [ready, entries_of_ofTasks distinct built, List.filter_map, List.map_map]
  congr 1
  apply List.filter_congr
  intro entry _
  rw [Bool.eq_iff_iff]
  simp

/-! ## Circles -/

def Waits (graph : TaskGraph α) (task dependency : α) : Prop :=
  dependency ∈ graph.dependencies task

def OnCircle (graph : TaskGraph α) (task : α) : Prop :=
  Relation.TransGen (Waits graph) task task

theorem exists_waits_of_mem_reachable {steps : Nat} {starts : List α} {task : α}
    (member : task ∈ graph.reachable steps starts) :
    ∃ start ∈ starts, Relation.ReflTransGen (Waits graph) start task := by
  induction steps generalizing starts with
  | zero => exact ⟨task, member, .refl⟩
  | succ steps induction =>
      simp only [reachable] at member
      split at member
      · exact ⟨task, member, .refl⟩
      · rcases List.mem_append.mp member with member | member
        · exact ⟨task, member, .refl⟩
        · rcases induction member with ⟨next, isNext, onwards⟩
          rcases List.mem_flatMap.mp (List.mem_eraseDups.mp isNext) with ⟨start, isStart, waits⟩
          exact ⟨start, isStart, .head waits onwards⟩

theorem mem_reachable_of_walk (walk : Nat → α) {length steps : Nat} (short : length ≤ steps)
    (waits : ∀ place < length, Waits graph (walk place) (walk (place + 1))) {starts : List α}
    (isStart : walk 0 ∈ starts) : walk length ∈ graph.reachable steps starts := by
  induction steps generalizing walk length starts with
  | zero =>
      have none : length = 0 := Nat.le_zero.mp short
      rw [none]
      exact isStart
  | succ steps induction =>
      cases length with
      | zero =>
          rw [reachable]
          split
          · exact isStart
          · exact List.mem_append_left _ isStart
      | succ length =>
          have next : walk 1 ∈ (starts.flatMap graph.dependencies).eraseDups :=
            List.mem_eraseDups.mpr
              (List.mem_flatMap.mpr ⟨walk 0, isStart, waits 0 (Nat.succ_pos length)⟩)
          have later : walk (length + 1) ∈
              graph.reachable steps (starts.flatMap graph.dependencies).eraseDups :=
            induction (fun place => walk (place + 1)) (Nat.le_of_succ_le_succ short)
              (fun place inside => waits (place + 1) (Nat.succ_lt_succ inside)) next
          rw [reachable, if_neg (by simpa using List.ne_nil_of_mem next)]
          exact List.mem_append_right _ later

theorem OnCircle.next {task : α} (circle : OnCircle graph task) :
    ∃ next, Waits graph task next ∧ OnCircle graph next := by
  rcases Relation.TransGen.head'_iff.mp circle with ⟨next, waits, back⟩
  exact ⟨next, waits, .tail' back waits⟩

theorem OnCircle.listed {task : α} (circle : OnCircle graph task) :
    task ∈ graph.entries.map Prod.fst := by
  rcases circle.next with ⟨next, waits, _⟩
  rcases listed_of_mem_dependencies waits with ⟨entry, member, rfl, _⟩
  exact List.mem_map_of_mem member

section

variable (distinct : (graph.entries.map Prod.fst).Nodup)

include distinct

theorem exists_onCircle_of_hasCycle (cyclic : graph.hasCycle = true) :
    ∃ task, OnCircle graph task := by
  rcases List.any_eq_true.mp cyclic with ⟨entry, member, back⟩
  have own := dependencies_of_mem distinct member
  rcases exists_waits_of_mem_reachable (by simpa using back) with ⟨start, isStart, onwards⟩
  refine ⟨entry.1, .head' ?_ onwards⟩
  rw [Waits, own]
  exact isStart

theorem hasCycle_of_walk {walk : Nat → α} {first last : Nat} (before : first < last)
    (short : last ≤ graph.size + 1)
    (waits : ∀ place, Waits graph (walk place) (walk (place + 1)))
    (same : walk first = walk last) : graph.hasCycle = true := by
  rcases listed_of_mem_dependencies (waits first) with ⟨entry, member, isFirst, _⟩
  have own := dependencies_of_mem distinct member
  refine List.any_eq_true.mpr ⟨entry, member, ?_⟩
  have back : walk (first + 1 + (last - first - 1)) ∈ graph.reachable graph.size entry.2 :=
    mem_reachable_of_walk (fun place => walk (first + 1 + place)) (by omega)
      (fun place _ => waits (first + 1 + place))
      (by rw [← own, isFirst]; exact waits first)
  rw [show first + 1 + (last - first - 1) = last by omega, ← same, ← isFirst] at back
  simpa using back

/-- Unfinished tasks of which none is ready hold a cycle: from each of them one goes on to another
one that it waits for, and as they are finitely many, one comes back. -/
theorem hasCycle_of_stuck
    (closed : ∀ task, ∀ dependency ∈ graph.dependencies task,
      dependency ∈ graph.entries.map Prod.fst)
    {finished : List α} {task : α} (listed : task ∈ graph.entries.map Prod.fst)
    (unfinished : task ∉ finished) (stuck : graph.ready finished = []) :
    graph.hasCycle = true := by
  let names := graph.entries.map Prod.fst
  have goesOn : ∀ task, task ∈ names ∧ task ∉ finished →
      ∃ next, Waits graph task next ∧ next ∈ names ∧ next ∉ finished := by
    rintro task ⟨listed, unfinished⟩
    by_contra none
    have isReady : task ∈ graph.ready finished := by
      refine (mem_ready distinct).mpr ⟨listed, unfinished, fun dependency depends => ?_⟩
      by_contra missing
      exact none ⟨dependency, depends, closed task dependency depends, missing⟩
    rw [stuck] at isReady
    cases isReady
  choose! next waits left using goesOn
  let walk : Nat → α := fun place => next^[place] task
  have follows : ∀ place, walk (place + 1) = next (walk place) :=
    fun place => Function.iterate_succ_apply' next place task
  have stays : ∀ place, walk place ∈ names ∧ walk place ∉ finished := by
    intro place
    induction place with
    | zero => exact ⟨listed, unfinished⟩
    | succ place induction =>
        rw [follows]
        exact left _ induction
  have chain : ∀ place, Waits graph (walk place) (walk (place + 1)) := by
    intro place
    rw [follows]
    exact waits _ (stays place)
  have crowded : names.toFinset.card < (Finset.range (graph.size + 1)).card := by
    have few := names.toFinset_card_le
    rw [List.length_map] at few
    rw [Finset.card_range]
    exact Nat.lt_succ_of_le few
  rcases Finset.exists_ne_map_eq_of_card_lt_of_maps_to crowded
      (fun place _ => List.mem_toFinset.mpr (stays place).1) with
    ⟨first, firstIn, last, lastIn, different, same⟩
  have firstShort := Finset.mem_range.mp firstIn
  have lastShort := Finset.mem_range.mp lastIn
  rcases Nat.lt_or_gt_of_ne different with before | before
  · exact hasCycle_of_walk distinct before (Nat.le_of_lt lastShort) chain same
  · exact hasCycle_of_walk distinct before (Nat.le_of_lt firstShort) chain same.symm

theorem not_onCircle_of_ready {finished : List α} {task : α}
    (isReady : task ∈ graph.ready finished)
    (outside : ∀ task ∈ finished, ¬OnCircle graph task) : ¬OnCircle graph task := by
  intro circle
  rcases circle.next with ⟨next, waits, onwards⟩
  exact outside next (((mem_ready distinct).mp isReady).2.2 next waits) onwards

theorem exists_stuck_of_onCircle {task : α} (circle : OnCircle graph task) :
    ∃ finished, task ∉ finished ∧ graph.ready finished = [] := by
  classical
  let finished := (graph.entries.map Prod.fst).filter fun task => ¬OnCircle graph task
  have outside : ∀ task ∈ finished, ¬OnCircle graph task :=
    fun task member => by simpa using (List.mem_filter.mp member).2
  refine ⟨finished, fun member => outside task member circle, ?_⟩
  apply List.eq_nil_iff_forall_not_mem.mpr
  intro other isReady
  have parts := (mem_ready distinct).mp isReady
  have free := not_onCircle_of_ready distinct isReady outside
  exact parts.2.1 (List.mem_filter.mpr ⟨parts.1, by simpa using free⟩)

theorem hasCycle_of_onCircle
    (closed : ∀ task, ∀ dependency ∈ graph.dependencies task,
      dependency ∈ graph.entries.map Prod.fst)
    {task : α} (circle : OnCircle graph task) : graph.hasCycle = true := by
  rcases exists_stuck_of_onCircle distinct circle with ⟨finished, unfinished, stuck⟩
  exact hasCycle_of_stuck distinct closed circle.listed unfinished stuck

end

/-! ## Finishing tasks -/

/-- Ready tasks are finished, one after the other. -/
inductive Finishes (graph : TaskGraph α) : (before after : List α) → Prop where
  | stop (finished : List α) : Finishes graph finished finished
  | finish {before after : List α} {task : α} (isReady : task ∈ graph.ready before)
      (later : Finishes graph (task :: before) after) : Finishes graph before after

def unfinished (graph : TaskGraph α) (finished : List α) : List α :=
  (graph.entries.map Prod.fst).filter fun task => task ∉ finished

section

variable (distinct : (graph.entries.map Prod.fst).Nodup) {before after : List α}

include distinct

theorem length_unfinished_cons {task : α} (isReady : task ∈ graph.ready before) :
    (graph.unfinished (task :: before)).length + 1 = (graph.unfinished before).length := by
  have parts := (mem_ready distinct).mp isReady
  have member : task ∈ graph.unfinished before :=
    List.mem_filter.mpr ⟨parts.1, by simpa using parts.2.1⟩
  have erased : graph.unfinished (task :: before) = (graph.unfinished before).erase task := by
    rw [unfinished, unfinished, (distinct.filter _).erase_eq_filter, List.filter_filter]
    apply List.filter_congr
    intro other _
    rw [Bool.eq_iff_iff]
    simp
  have some := List.length_pos_of_mem member
  rw [erased, List.length_erase_of_mem member]
  omega

theorem Finishes.length_add (run : Finishes graph before after) :
    after.length + (graph.unfinished after).length =
      before.length + (graph.unfinished before).length := by
  induction run with
  | stop => rfl
  | finish isReady later induction =>
      have fewer := length_unfinished_cons distinct isReady
      rw [List.length_cons] at induction
      omega

theorem Finishes.not_onCircle (run : Finishes graph before after)
    (outside : ∀ task ∈ before, ¬OnCircle graph task) :
    ∀ task ∈ after, ¬OnCircle graph task := by
  induction run with
  | stop => exact outside
  | finish isReady later induction =>
      apply induction
      intro task member
      rcases List.mem_cons.mp member with rfl | member
      · exact not_onCircle_of_ready distinct isReady outside
      · exact outside task member

theorem exists_finishes (before : List α) :
    ∃ after, Finishes graph before after ∧ graph.ready after = [] := by
  generalize count : (graph.unfinished before).length = left
  induction left generalizing before with
  | zero =>
      refine ⟨before, .stop before, List.eq_nil_iff_forall_not_mem.mpr fun task isReady => ?_⟩
      have fewer := length_unfinished_cons distinct isReady
      omega
  | succ left induction =>
      cases found : graph.ready before with
      | nil => exact ⟨before, .stop before, found⟩
      | cons task others =>
          have isReady : task ∈ graph.ready before := by
            rw [found]
            exact List.mem_cons_self
          have fewer := length_unfinished_cons distinct isReady
          rcases induction (task :: before) (by omega) with ⟨after, run, done⟩
          exact ⟨after, .finish isReady run, done⟩

end

/-- Which tasks are ready, and that they are enough to finish all tasks just if no task waits for
itself. -/
theorem ready_progress (distinct : (tasks.map Prod.fst).Nodup)
    (built : ofTasks tasks = .ok graph) :
    (∀ finished,
      graph.ready finished =
          (tasks.filter fun entry =>
            entry.1 ∉ finished ∧ ∀ dependency ∈ entry.2, dependency ∈ finished).map Prod.fst ∧
        (graph.ready finished).Nodup) ∧
    (graph.hasCycle = true ↔ ∃ task, Relation.TransGen (DependsOn tasks) task task) ∧
    (graph.hasCycle = false ↔
      ∀ finished, (∃ task ∈ tasks.map Prod.fst, task ∉ finished) → graph.ready finished ≠ []) ∧
    (∀ before after, Finishes graph before after → after.length ≤ before.length + tasks.length) ∧
    (graph.hasCycle = false ↔
      ∀ finished, Finishes graph [] finished → graph.ready finished = [] →
        ∀ task ∈ tasks.map Prod.fst, task ∈ finished) := by
  have names := names_of_ofTasks distinct built
  have own : (graph.entries.map Prod.fst).Nodup := by rwa [names]
  have waits : Waits graph = DependsOn tasks := by
    funext task dependency
    exact propext (mem_dependencies_iff distinct built)
  have closed : ∀ task, ∀ dependency ∈ graph.dependencies task,
      dependency ∈ graph.entries.map Prod.fst := by
    intro task dependency depends
    rcases (mem_dependencies_iff distinct built).mp depends with ⟨entry, listed, _, inside⟩
    rw [names]
    exact known_of_ofTasks built entry listed dependency inside
  have cyclic : graph.hasCycle = true ↔ ∃ task, OnCircle graph task :=
    ⟨exists_onCircle_of_hasCycle own, fun ⟨_, circle⟩ => hasCycle_of_onCircle own closed circle⟩
  have progress : graph.hasCycle = false →
      ∀ finished, (∃ task ∈ tasks.map Prod.fst, task ∉ finished) → graph.ready finished ≠ [] := by
    rintro acyclic finished ⟨task, listed, unfinished⟩ stuck
    rw [hasCycle_of_stuck own closed (by rwa [names]) unfinished stuck] at acyclic
    cases acyclic
  refine ⟨fun finished => ⟨ready_eq distinct built finished, ?_⟩, ?_, ⟨progress, ?_⟩, ?_, ?_, ?_⟩
  · exact own.sublist (List.filter_sublist.map _)
  · rw [cyclic, ← waits]
    rfl
  · intro ready
    rw [← Bool.not_eq_true, cyclic]
    rintro ⟨task, circle⟩
    rcases exists_stuck_of_onCircle own circle with ⟨finished, unfinished, stuck⟩
    exact ready finished ⟨task, names ▸ circle.listed, unfinished⟩ stuck
  · intro before after run
    have total := run.length_add own
    have few : (graph.unfinished before).length ≤ tasks.length := by
      rw [← List.length_map Prod.fst, ← names]
      exact List.length_filter_le _ _
    omega
  · intro acyclic finished _ done task listed
    by_contra unfinished
    exact progress acyclic finished ⟨task, listed, unfinished⟩ done
  · intro exhausts
    rw [← Bool.not_eq_true, cyclic]
    rintro ⟨task, circle⟩
    rcases exists_finishes own [] with ⟨finished, run, done⟩
    have outside := run.not_onCircle own (by simp) task
    exact outside (exhausts finished run done task (names ▸ circle.listed)) circle

theorem ready_progress_of_loop :
    let tasks := [("build", []), ("test", ["build", "build"]), ("loop", ["loop", "test"])]
    ∃ graph, (tasks.map Prod.fst).Nodup ∧ ofTasks tasks = .ok graph ∧
      graph.ready ["build"] = ["test"] ∧ graph.hasCycle = true ∧
      ∃ finished, Finishes graph [] finished ∧ graph.ready finished = [] ∧
        ∃ task ∈ tasks.map Prod.fst, task ∉ finished := by
  intro tasks
  have distinct : (tasks.map Prod.fst).Nodup := by decide
  let graph : TaskGraph String :=
    { entries := [("build", []), ("test", ["build", "build"]), ("loop", ["test", "loop"])] }
  have built : ofTasks tasks = .ok graph := by decide
  have promised := ready_progress distinct built
  have cyclic : graph.hasCycle = true := promised.2.1.mpr
    ⟨"loop", .single ⟨("loop", ["loop", "test"]), by decide, rfl, by decide⟩⟩
  refine ⟨graph, distinct, built, (promised.1 ["build"]).1.trans (by decide), cyclic, ?_⟩
  by_contra none
  have acyclic := promised.2.2.2.2.mpr fun finished run done task listed => by
    by_contra unfinished
    exact none ⟨finished, run, done, task, listed, unfinished⟩
  rw [cyclic] at acyclic
  cases acyclic

end LiterateTest.TaskGraph
