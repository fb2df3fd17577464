import LiterateTest.Task.Group
import Mathlib.Data.List.Find
import Mathlib.Data.List.Perm.Subperm

/-! Histories that a group of tasks can have. `Valid` says once what may happen to a task, and
when; everything else about histories is derived from it. -/

namespace LiterateTest

variable {β : Type}

namespace History

/-! ## Views -/

theorem mem_view {γ : Type} {history : History β} {select : TaskEvent β → Option γ}
    (make : γ → TaskEvent β)
    (inverse : ∀ event value, select event = some value ↔ event = make value)
    {value : γ} : value ∈ history.filterMap select ↔ make value ∈ history := by
  simp [List.mem_filterMap, inverse]

@[simp] theorem mem_launchedTasks {history : History β} {task : Nat} :
    task ∈ history.launchedTasks ↔ .launched task ∈ history :=
  mem_view .launched fun event _ => by cases event <;> simp

@[simp] theorem mem_startedTasks {history : History β} {task : Nat} :
    task ∈ history.startedTasks ↔ .started task ∈ history :=
  mem_view .started fun event _ => by cases event <;> simp

@[simp] theorem mem_stoppedTasks {history : History β} {task : Nat} :
    task ∈ history.stoppedTasks ↔ .stopped task ∈ history :=
  mem_view .stopped fun event _ => by cases event <;> simp

@[simp] theorem mem_statuses {history : History β} {entry : Nat × TaskStatus β} :
    entry ∈ history.statuses ↔ .settled entry.1 entry.2 ∈ history :=
  mem_view (fun entry : Nat × TaskStatus β => .settled entry.1 entry.2) fun event _ => by
    cases event <;> simp [Prod.ext_iff]

@[simp] theorem mem_finished {history : History β} {task : Nat} :
    task ∈ history.finished ↔ ∃ status, .settled task status ∈ history := by
  constructor
  · intro member
    rcases List.mem_map.mp member with ⟨entry, entryMember, rfl⟩
    exact ⟨entry.2, mem_statuses.mp entryMember⟩
  · rintro ⟨status, member⟩
    exact List.mem_map.mpr ⟨(task, status), mem_statuses.mpr member, rfl⟩

@[simp] theorem mem_waiting {history : History β} {task : Nat} :
    task ∈ history.waiting ↔ .launched task ∈ history ∧ .started task ∉ history := by
  simp [waiting]

@[simp] theorem mem_running {history : History β} {task : Nat} :
    task ∈ history.running ↔ .started task ∈ history ∧ .stopped task ∉ history := by
  simp [running]

@[simp] theorem mem_unsettled {history : History β} {task : Nat} :
    task ∈ history.unsettled ↔ .stopped task ∈ history ∧ task ∉ history.finished := by
  simp [unsettled]

theorem isKnown_iff {history : History β} {task : Nat} :
    history.isKnown task = true ↔ .launched task ∈ history ∨ task ∈ history.finished := by
  simp [isKnown]

theorem isKnown_eq_false_iff {history : History β} {task : Nat} :
    history.isKnown task = false ↔ .launched task ∉ history ∧ task ∉ history.finished := by
  rw [← Bool.not_eq_true, isKnown_iff, not_or]

/-! ## Statuses -/

@[simp] theorem status?_nil (task : Nat) : status? ([] : History β) task = none := rfl

@[simp] theorem status?_launched (history : History β) (other task : Nat) :
    status? (.launched other :: history) task = history.status? task := rfl

@[simp] theorem status?_started (history : History β) (other task : Nat) :
    status? (.started other :: history) task = history.status? task := rfl

@[simp] theorem status?_stopped (history : History β) (other task : Nat) :
    status? (.stopped other :: history) task = history.status? task := rfl

@[simp] theorem status?_settled_self (history : History β) (task : Nat)
    (status : TaskStatus β) : status? (.settled task status :: history) task = some status := by
  simp [status?, statuses]

theorem status?_settled_of_ne (history : History β) {other task : Nat}
    (status : TaskStatus β) (different : other ≠ task) :
    status? (.settled other status :: history) task = history.status? task := by
  simp [status?, statuses, different]

theorem settled_mem_of_status? {history : History β} {task : Nat} {status : TaskStatus β}
    (found : history.status? task = some status) : .settled task status ∈ history := by
  rw [status?, Option.map_eq_some_iff] at found
  rcases found with ⟨entry, entryFound, rfl⟩
  have same : entry.1 = task := by simpa using List.find?_some entryFound
  subst same
  exact mem_statuses.mp (List.mem_of_find?_eq_some entryFound)

theorem mem_finished_iff_status? {history : History β} {task : Nat} :
    task ∈ history.finished ↔ ∃ status, history.status? task = some status := by
  constructor
  · intro member
    rcases List.mem_map.mp member with ⟨entry, entryMember, rfl⟩
    cases found : history.statuses.find? fun other => other.1 == entry.1 with
    | none => simpa using List.find?_eq_none.mp found entry entryMember
    | some first => exact ⟨first.2, by rw [status?, found]; rfl⟩
  · rintro ⟨status, found⟩
    exact mem_finished.mpr ⟨status, settled_mem_of_status? found⟩

theorem status?_eq_none {history : History β} {task : Nat} (notEnded : task ∉ history.finished) :
    history.status? task = none := by
  cases found : history.status? task with
  | none => rfl
  | some status => exact absurd (mem_finished_iff_status?.mpr ⟨status, found⟩) notEnded

theorem hasCompleted_iff {history : History β} {task : Nat} :
    history.hasCompleted task = true ↔ ∃ value, history.status? task = some (.completed value) := by
  rw [hasCompleted]
  cases history.status? task with
  | none => simp
  | some status => cases status <;> simp [TaskStatus.isCompleted]

theorem mem_finished_of_hasCompleted {history : History β} {task : Nat}
    (completed : history.hasCompleted task = true) : task ∈ history.finished := by
  rcases hasCompleted_iff.mp completed with ⟨value, found⟩
  exact mem_finished_iff_status?.mpr ⟨_, found⟩

/-! ## What may happen -/

/-- A history in which each event was possible when it happened. -/
inductive Valid (group : TaskGroup β) (graph : TaskGraph Nat) : History β → Prop
  | empty : Valid group graph []
  | launched {history : History β} {task : Nat} (earlier : Valid group graph history)
      (fresh : history.isKnown task = false) (listed : task < group.size)
      (completed : ∀ dependency ∈ graph.dependencies task, history.hasCompleted dependency = true) :
      Valid group graph (.launched task :: history)
  | skipped {history : History β} {task dependency : Nat} (earlier : Valid group graph history)
      (fresh : history.isKnown task = false) (listed : task < group.size)
      (ended : ∀ dependency ∈ graph.dependencies task, dependency ∈ history.finished)
      (first : (graph.dependencies task).find? (fun other => !history.hasCompleted other) =
        some dependency) :
      Valid group graph (.settled task (.skipped dependency) :: history)
  | started {history : History β} {task : Nat} (earlier : Valid group graph history)
      (waits : task ∈ history.waiting) (room : history.running.length < group.limit) :
      Valid group graph (.started task :: history)
  | stopped {history : History β} {task : Nat} (earlier : Valid group graph history)
      (runs : task ∈ history.running) :
      Valid group graph (.stopped task :: history)
  | settled {history : History β} {task : Nat} {status : TaskStatus β}
      (earlier : Valid group graph history) (ends : task ∈ history.unsettled)
      (own : group.statusOf? task = some status) :
      Valid group graph (.settled task status :: history)

variable {group : TaskGroup β} {graph : TaskGraph Nat} {history : History β}

theorem Valid.of_suffix (valid : Valid group graph history) {earlier : History β}
    (part : earlier <:+ history) : Valid group graph earlier := by
  induction valid with
  | empty => rw [List.suffix_nil.mp part]; exact .empty
  | launched previous fresh listed completed induction =>
      rcases List.suffix_cons_iff.mp part with rfl | part
      · exact .launched previous fresh listed completed
      · exact induction part
  | skipped previous fresh listed ended first induction =>
      rcases List.suffix_cons_iff.mp part with rfl | part
      · exact .skipped previous fresh listed ended first
      · exact induction part
  | started previous waits room induction =>
      rcases List.suffix_cons_iff.mp part with rfl | part
      · exact .started previous waits room
      · exact induction part
  | stopped previous runs induction =>
      rcases List.suffix_cons_iff.mp part with rfl | part
      · exact .stopped previous runs
      · exact induction part
  | settled previous ends own induction =>
      rcases List.suffix_cons_iff.mp part with rfl | part
      · exact .settled previous ends own
      · exact induction part

/-! ## The stages of a task -/

theorem Valid.launched_of_started (valid : Valid group graph history) {task : Nat}
    (member : .started task ∈ history) : .launched task ∈ history := by
  induction valid with
  | empty => cases member
  | started previous waits room induction =>
      rcases List.mem_cons.mp member with equal | member
      · cases equal
        exact List.mem_cons_of_mem _ (mem_waiting.mp waits).1
      · exact List.mem_cons_of_mem _ (induction member)
  | launched _ _ _ _ induction | skipped _ _ _ _ _ induction | stopped _ _ induction
  | settled _ _ _ induction =>
      rcases List.mem_cons.mp member with equal | member
      · cases equal
      · exact List.mem_cons_of_mem _ (induction member)

theorem Valid.started_of_stopped (valid : Valid group graph history) {task : Nat}
    (member : .stopped task ∈ history) : .started task ∈ history := by
  induction valid with
  | empty => cases member
  | stopped previous runs induction =>
      rcases List.mem_cons.mp member with equal | member
      · cases equal
        exact List.mem_cons_of_mem _ (mem_running.mp runs).1
      · exact List.mem_cons_of_mem _ (induction member)
  | launched _ _ _ _ induction | skipped _ _ _ _ _ induction | started _ _ _ induction
  | settled _ _ _ induction =>
      rcases List.mem_cons.mp member with equal | member
      · cases equal
      · exact List.mem_cons_of_mem _ (induction member)

theorem Valid.settled_cases (valid : Valid group graph history) {task : Nat}
    {status : TaskStatus β} (member : .settled task status ∈ history) :
    (.stopped task ∈ history ∧ group.statusOf? task = some status) ∨
      (.launched task ∉ history ∧ ∃ dependency, status = .skipped dependency) := by
  induction valid with
  | empty => cases member
  | @launched history other previous fresh listed completed induction =>
      rcases List.mem_cons.mp member with equal | member
      · cases equal
      · have ended : task ∈ history.finished := mem_finished.mpr ⟨status, member⟩
        have different : task ≠ other := by
          rintro rfl
          exact (isKnown_eq_false_iff.mp fresh).2 ended
        simpa [different] using induction member
  | skipped previous fresh listed ended first induction =>
      rcases List.mem_cons.mp member with equal | member
      · cases equal
        right
        refine ⟨?_, _, rfl⟩
        simpa using (isKnown_eq_false_iff.mp fresh).1
      · simpa using induction member
  | started previous waits room induction =>
      rcases List.mem_cons.mp member with equal | member
      · cases equal
      · simpa using induction member
  | stopped previous runs induction =>
      rcases List.mem_cons.mp member with equal | member
      · cases equal
      · rcases induction member with ⟨stops, own⟩ | skipped
        · exact .inl ⟨List.mem_cons_of_mem _ stops, own⟩
        · simpa using Or.inr skipped
  | settled previous ends own induction =>
      rcases List.mem_cons.mp member with equal | member
      · cases equal
        exact .inl ⟨List.mem_cons_of_mem _ (mem_unsettled.mp ends).1, own⟩
      · simpa using induction member

theorem Valid.lt_size (valid : Valid group graph history) {task : Nat}
    (known : .launched task ∈ history ∨ task ∈ history.finished) : task < group.size := by
  induction valid with
  | empty => simp at known
  | @launched history other previous fresh listed completed induction =>
      rcases known with member | member
      · rcases List.mem_cons.mp member with equal | member
        · cases equal
          exact listed
        · exact induction (.inl member)
      · exact induction (.inr (by simpa using member))
  | @skipped history other dependency previous fresh listed ended first induction =>
      by_cases same : task = other
      · exact same ▸ listed
      · exact induction (by simpa [same] using known)
  | started previous waits room induction => exact induction (by simpa using known)
  | stopped previous runs induction => exact induction (by simpa using known)
  | @settled history other status previous ends own induction =>
      by_cases same : task = other
      · subst same
        have stopped := (mem_unsettled.mp ends).1
        exact induction (.inl (previous.launched_of_started (previous.started_of_stopped stopped)))
      · exact induction (by simpa [same] using known)

/-! ## Each event happens once -/

theorem Valid.launchedTasks_nodup (valid : Valid group graph history) :
    history.launchedTasks.Nodup := by
  induction valid with
  | empty => exact .nil
  | launched previous fresh listed completed induction =>
      have absent := (isKnown_eq_false_iff.mp fresh).1
      exact List.nodup_cons.mpr ⟨fun member => absent (mem_launchedTasks.mp member), induction⟩
  | skipped | started | stopped | settled => assumption

theorem Valid.startedTasks_nodup (valid : Valid group graph history) :
    history.startedTasks.Nodup := by
  induction valid with
  | empty => exact .nil
  | started previous waits room induction =>
      have absent := (mem_waiting.mp waits).2
      exact List.nodup_cons.mpr ⟨fun member => absent (mem_startedTasks.mp member), induction⟩
  | launched | skipped | stopped | settled => assumption

theorem Valid.stoppedTasks_nodup (valid : Valid group graph history) :
    history.stoppedTasks.Nodup := by
  induction valid with
  | empty => exact .nil
  | stopped previous runs induction =>
      have absent := (mem_running.mp runs).2
      exact List.nodup_cons.mpr ⟨fun member => absent (mem_stoppedTasks.mp member), induction⟩
  | launched | skipped | started | settled => assumption

theorem Valid.finished_nodup (valid : Valid group graph history) : history.finished.Nodup := by
  induction valid with
  | empty => exact .nil
  | skipped previous fresh listed ended first induction =>
      exact List.nodup_cons.mpr ⟨(isKnown_eq_false_iff.mp fresh).2, induction⟩
  | settled previous ends own induction =>
      exact List.nodup_cons.mpr ⟨(mem_unsettled.mp ends).2, induction⟩
  | launched | started | stopped => assumption

/-! ## Room -/

theorem Valid.running_length_le (valid : Valid group graph history) :
    history.running.length ≤ group.limit := by
  induction valid with
  | empty => exact Nat.zero_le _
  | launched | skipped | settled => assumption
  | @started history task previous waits room induction =>
      have grown : (running (.started task :: history)).length ≤ history.running.length + 1 := by
        simp only [running, startedTasks, stoppedTasks, List.filterMap_cons, List.filter_cons]
        split <;> simp
      exact Nat.le_trans grown room
  | @stopped history task previous runs induction =>
      have shrunk : (running (.stopped task :: history)).length ≤ history.running.length := by
        apply List.Sublist.length_le
        apply List.monotone_filter_right
        intro other stillRunning
        simp_all
      exact Nat.le_trans shrunk induction

/-! ## Dependencies -/

theorem Valid.status?_cons {event : TaskEvent β} (valid : Valid group graph (event :: history))
    {task : Nat} (ended : task ∈ history.finished) :
    status? (event :: history) task = history.status? task := by
  cases valid with
  | launched | started | stopped => rfl
  | skipped previous fresh listed all first =>
      apply status?_settled_of_ne
      rintro rfl
      exact (isKnown_eq_false_iff.mp fresh).2 ended
  | settled previous ends own =>
      apply status?_settled_of_ne
      rintro rfl
      exact (mem_unsettled.mp ends).2 ended

theorem Valid.hasCompleted_cons {event : TaskEvent β}
    (valid : Valid group graph (event :: history)) {task : Nat}
    (ended : task ∈ history.finished) :
    hasCompleted (event :: history) task = history.hasCompleted task := by
  rw [hasCompleted, valid.status?_cons ended, hasCompleted]

theorem finished_cons_of_mem {event : TaskEvent β} {task : Nat}
    (ended : task ∈ history.finished) : task ∈ finished (event :: history) := by
  rcases mem_finished.mp ended with ⟨status, member⟩
  exact mem_finished.mpr ⟨status, List.mem_cons_of_mem event member⟩

theorem Valid.completed_of_launched (valid : Valid group graph history) {task : Nat}
    (member : .launched task ∈ history) :
    ∀ dependency ∈ graph.dependencies task, history.hasCompleted dependency = true := by
  intro dependency isDependency
  -- Each case first moves the fact to the earlier history, where the dependency has ended.
  have extend {event : TaskEvent β} {earlier : History β}
      (whole : Valid group graph (event :: earlier))
      (completed : earlier.hasCompleted dependency = true) :
      hasCompleted (event :: earlier) dependency = true := by
    rw [whole.hasCompleted_cons (mem_finished_of_hasCompleted completed)]
    exact completed
  induction valid with
  | empty => cases member
  | launched previous fresh listed completed induction =>
      rcases List.mem_cons.mp member with equal | member
      · cases equal
        exact completed dependency isDependency
      · exact induction member
  | skipped previous fresh listed ended first induction =>
      exact extend (.skipped previous fresh listed ended first) (induction (by simpa using member))
  | started previous waits room induction =>
      exact extend (.started previous waits room) (induction (by simpa using member))
  | stopped previous runs induction =>
      exact extend (.stopped previous runs) (induction (by simpa using member))
  | settled previous ends own induction =>
      exact extend (.settled previous ends own) (induction (by simpa using member))

/-- How a task has to end, given how its dependencies ended: it is skipped because of the first
one that did not complete, and ends in its own way if there is none. -/
def expected? (group : TaskGroup β) (graph : TaskGraph Nat) (history : History β) (task : Nat) :
    Option (TaskStatus β) :=
  match (graph.dependencies task).find? fun other => !history.hasCompleted other with
  | some dependency => some (.skipped dependency)
  | none => group.statusOf? task

theorem expected?_congr {other : History β} {task : Nat}
    (same : ∀ dependency ∈ graph.dependencies task,
      history.hasCompleted dependency = other.hasCompleted dependency) :
    expected? group graph history task = expected? group graph other task := by
  have found : (graph.dependencies task).find? (fun dependency => !history.hasCompleted dependency)
      = (graph.dependencies task).find? fun dependency => !other.hasCompleted dependency := by
    apply List.find?_congr
    intro dependency member
    rw [same dependency member]
  rw [expected?, expected?, found]

theorem expected?_of_completed {task : Nat}
    (completed : ∀ dependency ∈ graph.dependencies task, history.hasCompleted dependency = true) :
    expected? group graph history task = group.statusOf? task := by
  have none :
      (graph.dependencies task).find? (fun other => !history.hasCompleted other) = none := by
    apply List.find?_eq_none.mpr
    intro dependency member
    simp [completed dependency member]
  rw [expected?, none]

/-- Every task that has ended did so after its dependencies, and as they require. -/
theorem Valid.status_expected (valid : Valid group graph history) {task : Nat}
    {status : TaskStatus β} (found : history.status? task = some status) :
    (∀ dependency ∈ graph.dependencies task, dependency ∈ history.finished) ∧
      expected? group graph history task = some status := by
  -- A later event changes neither side.
  have extend {event : TaskEvent β} {earlier : History β}
      (whole : Valid group graph (event :: earlier))
      (before : (∀ dependency ∈ graph.dependencies task, dependency ∈ earlier.finished) ∧
        expected? group graph earlier task = some status) :
      (∀ dependency ∈ graph.dependencies task, dependency ∈ finished (event :: earlier)) ∧
        expected? group graph (event :: earlier) task = some status := by
    refine ⟨fun dependency member => finished_cons_of_mem (before.1 dependency member), ?_⟩
    rw [← before.2]
    apply expected?_congr
    intro dependency member
    exact whole.hasCompleted_cons (before.1 dependency member)
  induction valid with
  | empty => cases found
  | launched previous fresh listed completed induction =>
      exact extend (.launched previous fresh listed completed) (induction found)
  | started previous waits room induction =>
      exact extend (.started previous waits room) (induction found)
  | stopped previous runs induction => exact extend (.stopped previous runs) (induction found)
  | @skipped earlier other dependency previous fresh listed ended first induction =>
      apply extend (.skipped previous fresh listed ended first)
      by_cases same : other = task
      · subst same
        rw [status?_settled_self] at found
        refine ⟨ended, ?_⟩
        rw [expected?, first]
        exact found
      · rw [status?_settled_of_ne _ _ same] at found
        exact induction found
  | @settled earlier other noted previous ends own induction =>
      apply extend (.settled previous ends own)
      by_cases same : other = task
      · subst same
        rw [status?_settled_self] at found
        have launched := previous.launched_of_started
          (previous.started_of_stopped (mem_unsettled.mp ends).1)
        have completed := previous.completed_of_launched launched
        refine ⟨fun dependency member =>
          mem_finished_of_hasCompleted (completed dependency member), ?_⟩
        rw [expected?_of_completed completed, own, found]
      · rw [status?_settled_of_ne _ _ same] at found
        exact induction found

/-! ## Length -/

private theorem length_le_of_places {places : List Nat} {size : Nat} (distinct : places.Nodup)
    (below : ∀ place ∈ places, place < size) : places.length ≤ size := by
  have contained : places ⊆ List.range size := fun place member =>
    List.mem_range.mpr (below place member)
  simpa using (distinct.subperm contained).length_le

theorem Valid.finished_length_le (valid : Valid group graph history) :
    history.finished.length ≤ group.size :=
  length_le_of_places valid.finished_nodup fun _ member => valid.lt_size (.inr member)

theorem Valid.length_le (valid : Valid group graph history) :
    history.length ≤ 4 * group.size := by
  have launched := length_le_of_places valid.launchedTasks_nodup fun task member =>
    valid.lt_size (.inl (mem_launchedTasks.mp member))
  have started := length_le_of_places valid.startedTasks_nodup fun task member =>
    valid.lt_size (.inl (valid.launched_of_started (mem_startedTasks.mp member)))
  have stopped := length_le_of_places valid.stoppedTasks_nodup fun task member =>
    valid.lt_size (.inl (valid.launched_of_started
      (valid.started_of_stopped (mem_stoppedTasks.mp member))))
  have finished := valid.finished_length_le
  have parts : history.length = history.launchedTasks.length + history.startedTasks.length
      + history.stoppedTasks.length + history.finished.length := by
    clear * -
    induction history with
    | nil => rfl
    | cons event earlier induction =>
        cases event <;>
          simp [launchedTasks, startedTasks, stoppedTasks, History.finished, statuses] at * <;>
          omega
  omega

end History

end LiterateTest
