import LiterateTest.Proofs.Task.Graph
import LiterateTest.Proofs.Task.History

/-! Runs of groups. A run only does what may happen, launches whatever can be launched, and goes
on until nothing more can happen. -/

namespace LiterateTest

variable {β : Type}

namespace TaskGroup

/-! ## Building -/

theorem addAll_eq (group : TaskGroup β) (tasks : List (Task β)) :
    group.addAll tasks = { group with tasks := group.tasks ++ tasks } := by
  induction tasks generalizing group with
  | nil => simp [addAll]
  | cons task tasks induction =>
      change ((group.add task).1).addAll tasks = _
      rw [induction]
      simp [add]

/-! ## The graph of a group -/

def dependenciesOf (tasks : List (Task β)) (place : Nat) : List Nat :=
  ((tasks[place]?).map Task.dependencies).getD []

variable {group : TaskGroup β} {graph : TaskGraph Nat}

private theorem places_eq_range (group : TaskGroup β) :
    (group.tasks.zipIdx.map fun (task, place) => (place, task.dependencies)).map Prod.fst =
      List.range group.size := by
  rw [List.map_map]
  change group.tasks.zipIdx.map Prod.snd = _
  rw [List.zipIdx_map_snd, List.range_eq_range', size]

theorem graph_eq_ok (known : ∀ task ∈ group.tasks, ∀ dependency ∈ task.dependencies,
    dependency < group.size) :
    group.graph = .ok { entries := group.tasks.zipIdx.map fun (task, place) =>
      (place, task.dependencies.reverse) } := by
  rw [TaskGroup.graph, TaskGraph.ofTasks_eq_ok]
  · rw [List.map_map]
    rfl
  · rw [places_eq_range]
    exact List.nodup_range
  · intro entry member dependency isDependency
    rw [places_eq_range, List.mem_range]
    rcases List.mem_map.mp member with ⟨⟨task, place⟩, indexed, rfl⟩
    exact known task (List.fst_mem_of_mem_zipIdx indexed) dependency isDependency

theorem graph_eq_error {task : Task β} {dependency : Nat} (member : task ∈ group.tasks)
    (isDependency : dependency ∈ task.dependencies) (foreign : group.size ≤ dependency) :
    ∃ named, group.graph = .error named ∧ group.size ≤ named ∧
      ∃ task ∈ group.tasks, named ∈ task.dependencies := by
  rcases List.getElem_of_mem member with ⟨place, inside, rfl⟩
  have indexed : (group.tasks[place], place) ∈ group.tasks.zipIdx := by
    rw [List.mem_zipIdx_iff_getElem?]
    simp [inside]
  have entryOf : (place, group.tasks[place].dependencies) ∈
      group.tasks.zipIdx.map fun (task, place) => (place, task.dependencies) :=
    List.mem_map.mpr ⟨_, indexed, rfl⟩
  rcases TaskGraph.ofTasks_eq_error entryOf isDependency
      (by rw [places_eq_range, List.mem_range]; omega) with
    ⟨named, isError, unlisted, entry, entryMember, inEntry⟩
  rw [places_eq_range, List.mem_range] at unlisted
  rcases List.mem_map.mp entryMember with ⟨⟨task, place⟩, taskIndexed, rfl⟩
  exact ⟨named, isError, by omega, task, List.fst_mem_of_mem_zipIdx taskIndexed, inEntry⟩

theorem known_of_graph_eq_ok (built : group.graph = .ok graph) :
    ∀ task ∈ group.tasks, ∀ dependency ∈ task.dependencies, dependency < group.size := by
  intro task member dependency isDependency
  by_cases inside : dependency < group.size
  · exact inside
  · rcases graph_eq_error member isDependency (by omega) with ⟨named, isError, _⟩
    rw [isError] at built
    cases built

theorem entries_eq (built : group.graph = .ok graph) :
    graph.entries = group.tasks.zipIdx.map fun (task, place) =>
      (place, task.dependencies.reverse) := by
  have same := graph_eq_ok (known_of_graph_eq_ok built)
  rw [built] at same
  cases same
  rfl

theorem places_of_graph (built : group.graph = .ok graph) :
    graph.entries.map Prod.fst = List.range group.size := by
  rw [entries_eq built, ← places_eq_range, List.map_map, List.map_map]
  rfl

theorem places_nodup (built : group.graph = .ok graph) :
    (graph.entries.map Prod.fst).Nodup := by
  rw [places_of_graph built]
  exact List.nodup_range

theorem graph_dependencies (built : group.graph = .ok graph) (place : Nat) :
    graph.dependencies place = (dependenciesOf group.tasks place).reverse := by
  cases found : group.tasks[place]? with
  | some task =>
      have member : (place, task.dependencies.reverse) ∈ graph.entries := by
        rw [entries_eq built]
        exact List.mem_map.mpr ⟨(task, place), List.mem_zipIdx_iff_getElem?.mpr found, rfl⟩
      rw [TaskGraph.dependencies_of_mem (places_nodup built) member, dependenciesOf, found]
      rfl
  | none =>
      have absent : graph.entries.reverse.find? (fun entry => entry.1 = place) = none := by
        apply List.find?_eq_none.mpr
        intro entry member same
        have listed : entry.1 ∈ graph.entries.map Prod.fst :=
          List.mem_map_of_mem (List.mem_reverse.mp member)
        rw [places_of_graph built, List.mem_range] at listed
        have outside := List.getElem?_eq_none_iff.mp found
        have equal : entry.1 = place := by simpa using same
        rw [size] at listed
        omega
      rw [TaskGraph.dependencies, absent, dependenciesOf, found]
      rfl

theorem mem_graph_dependencies (built : group.graph = .ok graph) {place dependency : Nat} :
    dependency ∈ graph.dependencies place ↔ dependency ∈ dependenciesOf group.tasks place := by
  rw [graph_dependencies built, List.mem_reverse]

theorem mem_ready (built : group.graph = .ok graph) {finished : List Nat} {place : Nat} :
    place ∈ graph.ready finished ↔ place < group.size ∧ place ∉ finished ∧
      ∀ dependency ∈ graph.dependencies place, dependency ∈ finished := by
  rw [TaskGraph.mem_ready (places_nodup built), places_of_graph built, List.mem_range]

theorem statusOf?_isSome {place : Nat} (inside : place < group.size) :
    ∃ status, group.statusOf? place = some status := by
  rw [statusOf?, List.getElem?_eq_getElem inside]
  exact ⟨_, rfl⟩

end TaskGroup

namespace History

variable {group : TaskGroup β} {graph : TaskGraph Nat} {history : History β}

/-! ## Launching -/

theorem suffix_launch (task : Nat) : history <:+ launch graph history task := by
  rw [launch]
  split
  · exact List.suffix_rfl
  · split <;> exact List.suffix_cons _ _

theorem finished_suffix {earlier : History β} (part : earlier <:+ history) :
    earlier.finished <:+ history.finished :=
  (part.filterMap _).map _

theorem isKnown_of_suffix {earlier : History β} (part : earlier <:+ history) {task : Nat}
    (known : earlier.isKnown task = true) : history.isKnown task = true := by
  rcases isKnown_iff.mp known with launched | ended
  · exact isKnown_iff.mpr (.inl (part.subset launched))
  · exact isKnown_iff.mpr (.inr ((finished_suffix part).subset ended))

theorem isKnown_launch (task : Nat) : (launch graph history task).isKnown task = true := by
  rw [launch]
  split
  · assumption
  · split <;> simp [isKnown_iff]

theorem Valid.launch (valid : Valid group graph history) {task : Nat} (listed : task < group.size)
    (ended : ∀ dependency ∈ graph.dependencies task, dependency ∈ history.finished) :
    Valid group graph (launch graph history task) := by
  rw [History.launch]
  split
  · exact valid
  · next unknown =>
      have fresh : history.isKnown task = false := by simpa using unknown
      split
      · next dependency first => exact .skipped valid fresh listed ended first
      · next none =>
          have completed := List.find?_eq_none.mp none
          exact .launched valid fresh listed (by simpa using completed)

theorem suffix_launchAll (tasks : List Nat) :
    history <:+ tasks.foldl (History.launch graph) history := by
  induction tasks generalizing history with
  | nil => exact List.suffix_rfl
  | cons task tasks induction => exact (suffix_launch task).trans induction

theorem Valid.launchAll (valid : Valid group graph history) {tasks : List Nat}
    (may : ∀ task ∈ tasks, task < group.size ∧
      ∀ dependency ∈ graph.dependencies task, dependency ∈ history.finished) :
    Valid group graph (tasks.foldl (History.launch graph) history) := by
  induction tasks generalizing history with
  | nil => exact valid
  | cons task tasks induction =>
      have first := may task List.mem_cons_self
      apply induction (valid.launch first.1 first.2)
      intro other member
      have later := may other (List.mem_cons_of_mem task member)
      exact ⟨later.1, fun dependency isDependency =>
        (finished_suffix (suffix_launch task)).subset (later.2 dependency isDependency)⟩

theorem isKnown_launchAll {tasks : List Nat} {task : Nat} (member : task ∈ tasks) :
    (tasks.foldl (History.launch graph) history).isKnown task = true := by
  induction tasks generalizing history with
  | nil => cases member
  | cons head tail induction =>
      rcases List.mem_cons.mp member with equal | member
      · subst head
        exact isKnown_of_suffix (suffix_launchAll tail) (isKnown_launch task)
      · exact induction member

theorem Valid.launchReady (built : group.graph = .ok graph) (valid : Valid group graph history)
    (budget : Nat) : Valid group graph (History.launchReady graph budget history) := by
  induction budget generalizing history with
  | zero => exact valid
  | succ budget induction =>
      have next : Valid group graph
          ((graph.ready history.finished).foldl (History.launch graph) history) := by
        apply valid.launchAll
        intro task member
        have ready := (TaskGroup.mem_ready built).mp member
        exact ⟨ready.1, ready.2.2⟩
      rw [History.launchReady]
      split
      · exact next
      · exact induction next

theorem suffix_launchReady (budget : Nat) : history <:+ launchReady graph budget history := by
  induction budget generalizing history with
  | zero => exact List.suffix_rfl
  | succ budget induction =>
      rw [launchReady]
      split
      · exact suffix_launchAll _
      · exact (suffix_launchAll _).trans induction

def Exhausted (graph : TaskGraph Nat) (history : History β) : Prop :=
  ∀ task ∈ graph.ready history.finished, history.isKnown task = true

/-- Launching comes to its end: each round but the last one skips a task. -/
theorem Valid.launchReady_exhausted (built : group.graph = .ok graph)
    (valid : Valid group graph history) {budget : Nat}
    (enough : group.size < budget + history.finished.length) :
    Exhausted graph (History.launchReady graph budget history) := by
  induction budget generalizing history with
  | zero =>
      have few := valid.finished_length_le
      omega
  | succ budget induction =>
      have part : history <:+ (graph.ready history.finished).foldl (History.launch graph) history :=
        suffix_launchAll _
      rw [History.launchReady]
      split
      · next same =>
          have equal := (finished_suffix part).eq_of_length same.symm
          intro task member
          rw [← equal] at member
          exact isKnown_launchAll member
      · next different =>
          have longer := (finished_suffix part).length_le
          apply induction
          · apply valid.launchAll
            intro task member
            have ready := (TaskGroup.mem_ready built).mp member
            exact ⟨ready.1, ready.2.2⟩
          · omega

/-! ## Single events -/

theorem Valid.possible (valid : Valid group graph history) {event : TaskEvent β}
    (possible : event ∈ group.possible history) : Valid group graph (event :: history) := by
  rw [TaskGroup.possible, List.mem_append, List.mem_append] at possible
  rcases possible with (start | stop) | settle
  · split at start
    · next room =>
        rcases List.mem_map.mp start with ⟨task, waits, rfl⟩
        exact .started valid waits room
    · cases start
  · rcases List.mem_map.mp stop with ⟨task, runs, rfl⟩
    exact .stopped valid runs
  · rcases List.mem_filterMap.mp settle with ⟨task, ends, noted⟩
    rcases Option.map_eq_some_iff.mp noted with ⟨status, own, rfl⟩
    exact .settled valid ends own

theorem suffix_advance (group : TaskGroup β) (graph : TaskGraph Nat) (history : History β)
    (event : TaskEvent β) : event :: history <:+ group.advance graph history event := by
  cases event with
  | settled task status => exact suffix_launchReady _
  | launched | started | stopped => exact List.suffix_rfl

theorem Valid.advance (built : group.graph = .ok graph) (valid : Valid group graph history)
    {event : TaskEvent β} (possible : event ∈ group.possible history) :
    Valid group graph (group.advance graph history event) := by
  have next := valid.possible possible
  cases event with
  | settled task status => exact next.launchReady built _
  | launched | started | stopped => exact next

theorem Exhausted.advance (built : group.graph = .ok graph) (valid : Valid group graph history)
    (exhausted : Exhausted graph history) {event : TaskEvent β}
    (possible : event ∈ group.possible history) :
    Exhausted graph (group.advance graph history event) := by
  have next := valid.possible possible
  cases event with
  | settled task status => exact next.launchReady_exhausted built (by omega)
  | launched | started | stopped =>
      intro task member
      exact isKnown_of_suffix (List.suffix_cons _ _) (exhausted task member)

theorem next?_mem {choice : Nat} {event : TaskEvent β}
    (next : group.next? history choice = some event) : event ∈ group.possible history :=
  List.mem_of_getElem? next

theorem possible_eq_nil_of_next? {choice : Nat} (none : group.next? history choice = none) :
    group.possible history = [] := by
  rw [TaskGroup.next?, List.getElem?_eq_none_iff] at none
  by_cases empty : (group.possible history).length = 0
  · exact List.length_eq_zero_iff.mp empty
  · have inside := Nat.mod_lt choice (Nat.pos_of_ne_zero empty)
    omega

/-! ## Runs -/

/-- A history of a run that has come to its end. -/
structure Complete (group : TaskGroup β) (graph : TaskGraph Nat) (history : History β) :
    Prop where
  built : group.graph = .ok graph
  valid : Valid group graph history
  exhausted : Exhausted graph history
  quiet : group.possible history = []

theorem complete_runFrom (built : group.graph = .ok graph) (order : List Nat) {budget : Nat}
    (valid : Valid group graph history) (exhausted : Exhausted graph history)
    (enough : 4 * group.size ≤ budget + history.length) :
    Complete group graph (group.runFrom graph budget order history) := by
  induction budget generalizing history order with
  | zero =>
      refine ⟨built, valid, exhausted, List.eq_nil_iff_forall_not_mem.mpr ?_⟩
      intro event possible
      have longer := (valid.possible possible).length_le
      rw [List.length_cons] at longer
      omega
  | succ budget induction =>
      rw [TaskGroup.runFrom]
      split
      · next event next =>
          have possible := next?_mem next
          apply induction order.tail (valid.advance built possible)
            (exhausted.advance built valid possible)
          have longer := (suffix_advance group graph history event).length_le
          rw [List.length_cons] at longer
          omega
      · next none => exact ⟨built, valid, exhausted, possible_eq_nil_of_next? none⟩

theorem complete_initial (built : group.graph = .ok graph) (order : List Nat) :
    Complete group graph (group.runFrom graph (4 * group.size) order
      (launchReady graph (group.size + 1) [])) := by
  have start : Valid group graph [] := .empty
  exact complete_runFrom built order (start.launchReady built _)
    (start.launchReady_exhausted built (by omega)) (by omega)

theorem wait_eq_ok (built : group.graph = .ok graph) (acyclic : graph.hasCycle = false)
    (order : List Nat) :
    group.wait order = .ok (group.runFrom graph (4 * group.size) order
      (launchReady graph (group.size + 1) [])) := by
  simp [TaskGroup.wait, TaskGroup.run, built, acyclic]

/-! ## Complete histories -/

namespace Complete

variable (complete : Complete group graph history)
include complete

theorem running_eq_nil : history.running = [] := by
  have quiet := complete.quiet
  rw [TaskGroup.possible, List.append_eq_nil_iff, List.append_eq_nil_iff] at quiet
  exact List.map_eq_nil_iff.mp quiet.1.2

theorem waiting_eq_nil : history.waiting = [] := by
  have quiet := complete.quiet
  rw [TaskGroup.possible, List.append_eq_nil_iff, List.append_eq_nil_iff] at quiet
  have room : history.running.length < group.limit := by
    rw [complete.running_eq_nil]
    exact Nat.lt_of_lt_of_le Nat.zero_lt_one (Nat.le_max_left 1 _)
  rw [if_pos room] at quiet
  exact List.map_eq_nil_iff.mp quiet.1.1

theorem stages_of_launched {task : Nat} (launched : .launched task ∈ history) :
    .started task ∈ history ∧ .stopped task ∈ history ∧ task ∈ history.finished := by
  have started : .started task ∈ history := by
    by_contra absent
    have waits := mem_waiting.mpr ⟨launched, absent⟩
    rw [complete.waiting_eq_nil] at waits
    cases waits
  have stopped : .stopped task ∈ history := by
    by_contra absent
    have runs := mem_running.mpr ⟨started, absent⟩
    rw [complete.running_eq_nil] at runs
    cases runs
  refine ⟨started, stopped, ?_⟩
  by_contra absent
  have listed := complete.valid.lt_size (.inl launched)
  rcases TaskGroup.statusOf?_isSome listed with ⟨status, own⟩
  have possible : TaskEvent.settled task status ∈ group.possible history := by
    apply List.mem_append_right
    exact List.mem_filterMap.mpr ⟨task, mem_unsettled.mpr ⟨stopped, absent⟩, by rw [own]; rfl⟩
  rw [complete.quiet] at possible
  cases possible

theorem finished_of_dependencies {task : Nat} (listed : task < group.size)
    (ended : ∀ dependency ∈ graph.dependencies task, dependency ∈ history.finished) :
    task ∈ history.finished := by
  by_contra absent
  have ready := (TaskGroup.mem_ready complete.built).mpr ⟨listed, absent, ended⟩
  rcases isKnown_iff.mp (complete.exhausted task ready) with launched | known
  · exact absent (complete.stages_of_launched launched).2.2
  · exact absent known

theorem status_eq_expected {task : Nat} (ended : task ∈ history.finished) :
    history.status? task = expected? group graph history task := by
  rcases mem_finished_iff_status?.mp ended with ⟨status, found⟩
  rw [found, (complete.valid.status_expected found).2]

end Complete

end History

end LiterateTest
