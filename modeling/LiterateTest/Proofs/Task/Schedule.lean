import LiterateTest.Proofs.Task.Run
import Mathlib.Data.List.Nodup
import Mathlib.Logic.Relation

/-! What a group promises for its tasks: whichever task ends first, all of them end, each in the
way that its dependencies leave to it. -/

namespace LiterateTest

variable {β : Type}

namespace TaskGroup

/-! ## Dependencies that can be given -/

/-- Each task depends on tasks that were added before it, or on ones that are not in the group. -/
def Sequential (tasks : List (Task β)) : Prop :=
  ∀ place < tasks.length, ∀ dependency ∈ dependenciesOf tasks place,
    dependency < place ∨ tasks.length ≤ dependency

instance (tasks : List (Task β)) : Decidable (Sequential tasks) :=
  inferInstanceAs (Decidable (∀ place < tasks.length, ∀ dependency ∈ dependenciesOf tasks place,
    dependency < place ∨ tasks.length ≤ dependency))

def Closed (tasks : List (Task β)) : Prop :=
  ∀ task ∈ tasks, ∀ dependency ∈ task.dependencies, dependency < tasks.length

instance (tasks : List (Task β)) : Decidable (Closed tasks) :=
  inferInstanceAs (Decidable (∀ task ∈ tasks, ∀ dependency ∈ task.dependencies,
    dependency < tasks.length))

def DependsOn (tasks : List (Task β)) (place dependency : Nat) : Prop :=
  dependency ∈ dependenciesOf tasks place

theorem lt_length_of_dependsOn {tasks : List (Task β)} {place dependency : Nat}
    (depends : DependsOn tasks place dependency) : place < tasks.length := by
  rw [DependsOn, dependenciesOf] at depends
  cases found : tasks[place]? with
  | none => simp [found] at depends
  | some task => exact (List.getElem?_eq_some_iff.mp found).1

theorem Closed.dependency_lt {tasks : List (Task β)} (closed : Closed tasks)
    {place dependency : Nat} (depends : DependsOn tasks place dependency) :
    dependency < tasks.length := by
  rw [DependsOn, dependenciesOf] at depends
  cases found : tasks[place]? with
  | none => simp [found] at depends
  | some task =>
      rw [found] at depends
      exact closed task (List.mem_of_getElem? found) dependency depends

theorem Sequential.dependency_lt {tasks : List (Task β)} (sequential : Sequential tasks)
    (closed : Closed tasks) {place dependency : Nat}
    (depends : DependsOn tasks place dependency) : dependency < place := by
  have inside := closed.dependency_lt depends
  rcases sequential place (lt_length_of_dependsOn depends) dependency depends with earlier | outside
  · exact earlier
  · omega

end TaskGroup

namespace History

open TaskGroup

variable {group : TaskGroup β} {graph : TaskGraph Nat} {history : History β}

/-! ## Runs of sequential groups -/

theorem Complete.finished_of_sequential (complete : Complete group graph history)
    (sequential : Sequential group.tasks) (closed : Closed group.tasks) (place : Nat)
    (listed : place < group.size) : place ∈ history.finished := by
  induction place using Nat.strongRecOn with
  | ind place induction =>
      apply complete.finished_of_dependencies listed
      intro dependency member
      have depends := (mem_graph_dependencies complete.built).mp member
      have earlier := sequential.dependency_lt closed depends
      exact induction dependency earlier (Nat.lt_trans earlier listed)

theorem Complete.finished_perm (complete : Complete group graph history)
    (sequential : Sequential group.tasks) (closed : Closed group.tasks) :
    history.finished.Perm (List.range group.size) := by
  apply (List.perm_ext_iff_of_nodup complete.valid.finished_nodup List.nodup_range).mpr
  intro place
  rw [List.mem_range]
  exact ⟨fun ended => complete.valid.lt_size (.inr ended),
    complete.finished_of_sequential sequential closed place⟩

theorem find?_incomplete (dependencies : List Nat) :
    (∃ dependency,
        dependencies.find? (fun other => !history.hasCompleted other) = some dependency) ↔
      ∃ dependency ∈ dependencies, history.hasCompleted dependency = false := by
  rw [← Option.isSome_iff_exists, List.find?_isSome]
  simp

theorem Complete.skipped_cases (complete : Complete group graph history) {place dependency : Nat}
    (skipped : history.status? place = some (.skipped dependency)) :
    DependsOn group.tasks place dependency ∧ history.hasCompleted dependency = false := by
  have expected := (complete.valid.status_expected skipped).2
  rw [expected?] at expected
  split at expected
  · next named first =>
      cases expected
      exact ⟨(mem_graph_dependencies complete.built).mp (List.mem_of_find?_eq_some first),
        by simpa using List.find?_some first⟩
  · rw [statusOf?, Option.map_eq_some_iff] at expected
    rcases expected with ⟨task, -, own⟩
    rw [TaskStatus.ofWork] at own
    split at own
    · cases own
    · split at own <;> cases own

theorem Complete.skipped_of_incomplete (complete : Complete group graph history)
    {place dependency : Nat} (ended : place ∈ history.finished)
    (depends : DependsOn group.tasks place dependency)
    (incomplete : history.hasCompleted dependency = false) :
    ∃ named, history.status? place = some (.skipped named) := by
  have member := (mem_graph_dependencies complete.built).mpr depends
  rcases (find?_incomplete _).mpr ⟨dependency, member, incomplete⟩ with ⟨named, first⟩
  refine ⟨named, ?_⟩
  rw [complete.status_eq_expected ended, expected?, first]

theorem Complete.runs_of_completed (complete : Complete group graph history) {place : Nat}
    (ended : place ∈ history.finished)
    (completed : ∀ dependency, DependsOn group.tasks place dependency →
      history.hasCompleted dependency = true) :
    history.startedTasks.count place = 1 ∧ history.status? place = group.statusOf? place := by
  have all : ∀ dependency ∈ graph.dependencies place, history.hasCompleted dependency = true := by
    intro dependency member
    exact completed dependency ((mem_graph_dependencies complete.built).mp member)
  have own : history.status? place = group.statusOf? place := by
    rw [complete.status_eq_expected ended, expected?_of_completed all]
  refine ⟨?_, own⟩
  rcases mem_finished_iff_status?.mp ended with ⟨status, found⟩
  rcases complete.valid.settled_cases (settled_mem_of_status? found) with
    ⟨stopped, -⟩ | ⟨-, dependency, rfl⟩
  · have started := complete.valid.started_of_stopped stopped
    exact List.count_eq_one_of_mem complete.valid.startedTasks_nodup (mem_startedTasks.mpr started)
  · have cases := complete.skipped_cases found
    rw [completed dependency cases.1] at cases
    exact absurd cases.2 (by simp)

theorem Valid.completed_of_started (valid : Valid group graph history) {place : Nat}
    (started : .started place ∈ history) :
    ∀ dependency ∈ graph.dependencies place, history.hasCompleted dependency = true :=
  valid.completed_of_launched (valid.launched_of_started started)

theorem Valid.completed_before (valid : Valid group graph history) {place : Nat}
    {earlier : History β}
    (moment : .launched place :: earlier <:+ history ∨ .started place :: earlier <:+ history) :
    ∀ dependency ∈ graph.dependencies place, earlier.hasCompleted dependency = true := by
  rcases moment with part | part
  · cases valid.of_suffix part with
    | launched before fresh listed completed => exact completed
  · cases valid.of_suffix part with
    | started before waits room =>
        exact before.completed_of_launched (mem_waiting.mp waits).1

/-! ## What is promised -/

/-- What a group of tasks promises of the history of a run. -/
structure Orderly (limit : Nat) (tasks : List (Task β)) (own : Nat → Option (TaskStatus β))
    (history : History β) : Prop where
  /-- Every task has ended, and in one way. -/
  ended : history.finished.Perm (List.range tasks.length)
  /-- Nothing starts but tasks of the group. -/
  started_listed : ∀ place, .started place ∈ history → place < tasks.length
  /-- A task is launched, and then started, when its dependencies have completed. -/
  dependencies_first : ∀ place (earlier : History β),
    .launched place :: earlier <:+ history ∨ .started place :: earlier <:+ history →
      ∀ dependency, DependsOn tasks place dependency → earlier.hasCompleted dependency = true
  /-- At no time do more tasks run than may. -/
  within_limit : ∀ moment : History β, moment <:+ history → moment.running.length ≤ limit
  /-- A task is skipped just if a dependency did not complete. -/
  skipped_iff : ∀ place < tasks.length,
    (∃ dependency, history.status? place = some (.skipped dependency)) ↔
      ∃ dependency, DependsOn tasks place dependency ∧ history.hasCompleted dependency = false
  /-- The dependency that is named is one that did not complete. -/
  skipped_names : ∀ place dependency, history.status? place = some (.skipped dependency) →
    DependsOn tasks place dependency ∧ history.hasCompleted dependency = false
  /-- Whatever waits for a task that did not complete, directly or over others, is skipped. -/
  skipped_transitively : ∀ place dependency,
    Relation.TransGen (DependsOn tasks) place dependency → history.hasCompleted dependency = false →
      ∃ named, history.status? place = some (.skipped named)
  /-- A task that is skipped does not start. -/
  skipped_never_starts : ∀ place dependency,
    history.status? place = some (.skipped dependency) → .started place ∉ history
  /-- Every other task runs once, and ends in its own way. -/
  others_run : ∀ place < tasks.length,
    (¬∃ dependency, history.status? place = some (.skipped dependency)) →
      history.startedTasks.count place = 1 ∧ history.status? place = own place

theorem Complete.orderly (complete : Complete group graph history)
    (sequential : Sequential group.tasks) (closed : Closed group.tasks) :
    Orderly group.limit group.tasks group.statusOf? history := by
  have all (place : Nat) (listed : place < group.tasks.length) : place ∈ history.finished :=
    complete.finished_of_sequential sequential closed place listed
  have skips {place dependency : Nat} (depends : DependsOn group.tasks place dependency)
      (incomplete : history.hasCompleted dependency = false) :
      ∃ named, history.status? place = some (.skipped named) :=
    complete.skipped_of_incomplete (all place (lt_length_of_dependsOn depends)) depends incomplete
  constructor
  case ended => exact complete.finished_perm sequential closed
  case started_listed =>
    intro place started
    exact complete.valid.lt_size (.inl (complete.valid.launched_of_started started))
  case dependencies_first =>
    intro place earlier moment dependency depends
    exact complete.valid.completed_before moment dependency
      ((mem_graph_dependencies complete.built).mpr depends)
  case within_limit =>
    intro moment part
    exact (complete.valid.of_suffix part).running_length_le
  case skipped_iff =>
    intro place listed
    constructor
    · rintro ⟨dependency, skipped⟩
      exact ⟨dependency, complete.skipped_cases skipped⟩
    · rintro ⟨dependency, depends, incomplete⟩
      exact skips depends incomplete
  case skipped_names =>
    intro place dependency skipped
    exact complete.skipped_cases skipped
  case skipped_transitively =>
    intro place dependency path incomplete
    induction path using Relation.TransGen.head_induction_on with
    | single depends => exact skips depends incomplete
    | head depends _ induction =>
        rcases induction with ⟨named, skipped⟩
        apply skips depends
        simp [hasCompleted, skipped, TaskStatus.isCompleted]
  case skipped_never_starts =>
    intro place dependency skipped started
    rcases complete.skipped_cases skipped with ⟨depends, incomplete⟩
    have completed := complete.valid.completed_of_started started dependency
      ((mem_graph_dependencies complete.built).mpr depends)
    rw [completed] at incomplete
    exact absurd incomplete (by simp)
  case others_run =>
    intro place listed notSkipped
    apply complete.runs_of_completed (all place listed)
    intro dependency depends
    by_contra incomplete
    exact notSkipped (skips depends (by simpa using incomplete))

/-! ## Two runs -/

theorem Valid.dependencies_before {event : TaskEvent β}
    (valid : Valid group graph (event :: history)) {place : Nat}
    (ended : place ∈ finished (event :: history)) (notBefore : place ∉ history.finished) :
    ∀ dependency ∈ graph.dependencies place, dependency ∈ history.finished := by
  have newest {task : Nat} {status : TaskStatus β}
      (noted : place ∈ finished (.settled task status :: history)) : task = place := by
    by_contra different
    rcases mem_finished_iff_status?.mp noted with ⟨found, isFound⟩
    rw [status?_settled_of_ne _ _ different] at isFound
    exact notBefore (mem_finished_iff_status?.mpr ⟨found, isFound⟩)
  cases valid with
  | launched | started | stopped => exact absurd ended (by simpa using notBefore)
  | skipped previous fresh listed all first => exact newest ended ▸ all
  | settled previous ends own =>
      have same := newest ended
      subst same
      have launched := previous.launched_of_started
        (previous.started_of_stopped (mem_unsettled.mp ends).1)
      intro dependency member
      exact mem_finished_of_hasCompleted
        (previous.completed_of_launched launched dependency member)

/-- What is noted in one run is noted in every other one. The induction is on the first run, in
which a task ends after its dependencies; by then they have ended alike in the second. -/
theorem Complete.agrees {other : TaskGroup β} {otherHistory : History β}
    (complete : Complete other graph otherHistory) (sameSize : other.size = group.size)
    (sameOwn : other.statusOf? = group.statusOf?) (valid : Valid group graph history) {place : Nat}
    (ended : place ∈ history.finished) :
    history.status? place = otherHistory.status? place := by
  induction history generalizing place with
  | nil => simp at ended
  | cons event earlier induction =>
      have previous := valid.of_suffix (List.suffix_cons event earlier)
      by_cases before : place ∈ finished earlier
      · rw [valid.status?_cons before]
        exact induction previous before
      · have dependenciesEnded := valid.dependencies_before ended before
        have sameDependencies : ∀ dependency ∈ graph.dependencies place,
            hasCompleted (event :: earlier) dependency = otherHistory.hasCompleted dependency := by
          intro dependency member
          have dependencyEnded := dependenciesEnded dependency member
          rw [valid.hasCompleted_cons dependencyEnded, hasCompleted,
            induction previous dependencyEnded, hasCompleted]
        have otherEnded : place ∈ otherHistory.finished := by
          apply complete.finished_of_dependencies (sameSize ▸ valid.lt_size (.inr ended))
          intro dependency member
          have dependencyEnded := dependenciesEnded dependency member
          rw [mem_finished_iff_status?, ← induction previous dependencyEnded]
          exact mem_finished_iff_status?.mp dependencyEnded
        rcases mem_finished_iff_status?.mp ended with ⟨status, found⟩
        rw [complete.status_eq_expected otherEnded, found, ← (valid.status_expected found).2,
          expected?_congr sameDependencies, expected?, expected?, sameOwn]

theorem Complete.status?_eq {other : TaskGroup β} {otherHistory : History β}
    (complete : Complete group graph history) (otherComplete : Complete other graph otherHistory)
    (sameSize : other.size = group.size) (sameOwn : other.statusOf? = group.statusOf?) :
    history.status? = otherHistory.status? := by
  funext place
  by_cases ended : place ∈ history.finished
  · exact otherComplete.agrees sameSize sameOwn complete.valid ended
  · by_cases otherEnded : place ∈ otherHistory.finished
    · exact (complete.agrees sameSize.symm sameOwn.symm otherComplete.valid otherEnded).symm
    · rw [status?_eq_none ended, status?_eq_none otherEnded]

end History

namespace TaskGroup

open History

/-! ## Groups -/

theorem ended_of_closed {group : TaskGroup β} (sequential : Sequential group.tasks)
    (closed : Closed group.tasks) (order : List Nat) :
    ∃ history graph, group.wait order = .ok history ∧ Complete group graph history := by
  have built := graph_eq_ok closed
  have acyclic := TaskGraph.hasCycle_eq_false (places_nodup built) fun place dependency member =>
    sequential.dependency_lt closed ((mem_graph_dependencies built).mp member)
  exact ⟨_, _, wait_eq_ok built acyclic order, complete_initial built order⟩

theorem wait_map_status?_eq (group : TaskGroup β) (maxConcurrent : Nat)
    (order otherOrder : List Nat) :
    (group.wait order).map History.status? =
      ({ group with maxConcurrent }.wait otherOrder).map History.status? := by
  let other : TaskGroup β := { group with maxConcurrent }
  have sameGraph : other.graph = group.graph := rfl
  cases built : group.graph with
  | error task =>
      have otherBuilt := sameGraph.trans built
      simp [wait, run, built, otherBuilt, other]
  | ok graph =>
      have otherBuilt := sameGraph.trans built
      cases cyclic : graph.hasCycle with
      | true => simp [wait, run, built, otherBuilt, cyclic, other]
      | false =>
          have first := complete_initial built order
          have second := complete_initial otherBuilt otherOrder
          rw [wait_eq_ok built cyclic order, wait_eq_ok otherBuilt cyclic otherOrder]
          exact congrArg Except.ok (first.status?_eq second rfl rfl)

/-- A group in which a task depends on an unknown one does nothing at all. In any other group all
tasks end, whichever event comes next each time. -/
theorem wait_orderly (maxConcurrent : Nat) (defaultTimeout : Duration) (tasks : List (Task β))
    (sequential : Sequential tasks) (order : List Nat) :
    let group := addAll { maxConcurrent, defaultTimeout } tasks
    (¬Closed tasks →
      (group.run order).1 = [] ∧
      ∃ unknown, group.wait order = .error (.unknownDependency unknown) ∧
        tasks.length ≤ unknown ∧ ∃ task ∈ tasks, unknown ∈ task.dependencies) ∧
    (Closed tasks →
      ∃ history, group.wait order = .ok history ∧
        Orderly (max 1 maxConcurrent) tasks group.statusOf? history) := by
  intro group
  have same : group = { maxConcurrent, defaultTimeout, tasks } := by
    simp only [group, addAll_eq, List.nil_append]
  have sameTasks : group.tasks = tasks := by rw [same]
  constructor
  · intro notClosed
    simp only [Closed, not_forall, not_lt] at notClosed
    rcases notClosed with ⟨task, member, dependency, isDependency, foreign⟩
    rw [← sameTasks] at member foreign ⊢
    rcases graph_eq_error member isDependency foreign with
      ⟨unknown, isError, outside, owner, ownerMember, named⟩
    exact ⟨by simp [run, isError], unknown, by simp [wait, run, isError], outside, owner,
      ownerMember, named⟩
  · intro closed
    rw [← sameTasks] at sequential closed
    rcases ended_of_closed sequential closed order with ⟨history, graph, ended, complete⟩
    refine ⟨history, ended, ?_⟩
    have orderly := complete.orderly sequential closed
    rw [sameTasks] at orderly
    simpa only [limit, same] using orderly

example :
    let tasks : List (Task Nat) :=
      [{ work := { outcome := .failure "no" } },
        { dependencies := [0], work := { outcome := .value 8 } }]
    (((addAll { maxConcurrent := 2, defaultTimeout := .ofSeconds 1 } tasks).wait []).map
      History.statuses).toOption = some [(1, .skipped 0), (0, .failed "no")] := by
  decide

theorem wait_orderly_of_failure :
    let tasks : List (Task Nat) :=
      [{ work := { outcome := .value 7 } }, { work := { outcome := .failure "no" } },
        { dependencies := [0, 1], work := { outcome := .value 8 } },
        { dependencies := [2], work := { outcome := .endless } }]
    let group := addAll { maxConcurrent := 0, defaultTimeout := .ofSeconds 1 } tasks
    Sequential tasks ∧ Closed tasks ∧
      ∃ history, group.wait [1, 1, 0, 2] = .ok history ∧
        Orderly (max 1 0) tasks group.statusOf? history := by
  intro tasks group
  have sequential : Sequential tasks := by decide
  have closed : Closed tasks := by decide
  have promised := wait_orderly 0 (.ofSeconds 1) tasks sequential [1, 1, 0, 2]
  exact ⟨sequential, closed, promised.2 closed⟩

/-- The same tasks end in the same way, whatever happens first and however many may run at once;
and they all end. -/
theorem wait_independent (group : TaskGroup β) (maxConcurrent : Nat)
    (order otherOrder : List Nat) :
    (group.wait order).map History.status? =
        ({ group with maxConcurrent }.wait otherOrder).map History.status? ∧
      (Sequential group.tasks → Closed group.tasks →
        ∃ statuses, (group.wait order).map History.status? = .ok statuses ∧
          ∀ place < group.size, ∃ status, statuses place = some status) := by
  refine ⟨wait_map_status?_eq group maxConcurrent order otherOrder, ?_⟩
  intro sequential closed
  rcases ended_of_closed sequential closed order with ⟨history, graph, ended, complete⟩
  refine ⟨history.status?, by rw [ended]; rfl, ?_⟩
  intro place listed
  exact mem_finished_iff_status?.mp (complete.finished_of_sequential sequential closed place listed)

theorem wait_independent_of_failure :
    let group : TaskGroup Nat :=
      { maxConcurrent := 1, defaultTimeout := .ofSeconds 1
        tasks := [{ work := { outcome := .failure "no" } },
          { dependencies := [0], work := { outcome := .value 8 } }] }
    Sequential group.tasks ∧ Closed group.tasks ∧
      (group.wait [1]).map History.status? =
        ({ group with maxConcurrent := 5 }.wait [0, 3]).map History.status? ∧
      ∃ statuses, (group.wait [1]).map History.status? = .ok statuses ∧
        ∀ place < 2, ∃ status, statuses place = some status := by
  intro group
  have sequential : Sequential group.tasks := by decide
  have closed : Closed group.tasks := by decide
  have independent := wait_independent group 5 [1] [0, 3]
  exact ⟨sequential, closed, independent.1, independent.2 sequential closed⟩

end TaskGroup

end LiterateTest
