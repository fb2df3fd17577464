import LiterateTest.Duration
import LiterateTest.Task.Graph

/-! Groups of tasks that run next to each other, up to a limit. A task starts when all tasks it
depends on have completed; if one of them ends in another way, the task is skipped.

What a task does when it runs is given with it. Which of the tasks that may start gets a free
place, which running task ends next, and when the group takes note of it, is not determined by
the group: it is an argument. -/

namespace LiterateTest

/-! ## Tasks -/

inductive TaskOutcome (β : Type) where
  | value (value : β)
  | failure (message : String)
  | panic (message : String)
  | endless
  deriving DecidableEq, Repr

structure TaskWork (β : Type) where
  outcome : TaskOutcome β
  elapsed : Duration := .zero
  deriving DecidableEq, Repr

inductive TaskStatus (β : Type) where
  | completed (value : β)
  | failed (message : String)
  /-- The task took longer than it may. -/
  | timedOut (limit : Duration)
  /-- The task has not started, because the dependency did not complete. -/
  | skipped (dependency : Nat)
  | panicked (message : String)
  deriving DecidableEq, Repr

namespace TaskStatus

variable {β : Type}

def isCompleted : TaskStatus β → Bool
  | completed _ => true
  | _ => false

def ofWork (limit : Duration) (work : TaskWork β) : TaskStatus β :=
  if limit.nanoseconds < work.elapsed.nanoseconds then timedOut limit
  else
    match work.outcome with
    | .value value => completed value
    | .failure message => failed message
    | .panic message => panicked message
    | .endless => timedOut limit

end TaskStatus

/-- A task is known by its place in its group. -/
structure Task (β : Type) where
  dependencies : List Nat := []
  timeout : Option Duration := none
  work : TaskWork β

structure TaskGroup (β : Type) where
  maxConcurrent : Nat
  defaultTimeout : Duration
  tasks : List (Task β) := []

inductive TaskFault where
  | unknownDependency (task : Nat)
  | cyclicDependency
  deriving DecidableEq, Repr

namespace TaskFault

def message : TaskFault → String
  | unknownDependency task => "Task depends on unknown task " ++ toString task
  | cyclicDependency => "Cyclic dependency detected in task graph"

end TaskFault

inductive TaskEvent (β : Type) where
  /-- The task may start as soon as there is room for it. -/
  | launched (task : Nat)
  /-- The task has taken one of the places for running tasks. -/
  | started (task : Nat)
  /-- The task has come to its end, and has given its place back. -/
  | stopped (task : Nat)
  /-- The group has taken note of how the task ended. -/
  | settled (task : Nat) (status : TaskStatus β)
  deriving DecidableEq, Repr

abbrev History (β : Type) := List (TaskEvent β)

namespace History

variable {β : Type}

/-! ## Views of a history -/

def launchedTasks (history : History β) : List Nat :=
  history.filterMap fun
    | .launched task => some task
    | _ => none

def startedTasks (history : History β) : List Nat :=
  history.filterMap fun
    | .started task => some task
    | _ => none

def stoppedTasks (history : History β) : List Nat :=
  history.filterMap fun
    | .stopped task => some task
    | _ => none

def statuses (history : History β) : List (Nat × TaskStatus β) :=
  history.filterMap fun
    | .settled task status => some (task, status)
    | _ => none

def finished (history : History β) : List Nat := history.statuses.map Prod.fst

def waiting (history : History β) : List Nat :=
  history.launchedTasks.filter fun task => !history.startedTasks.contains task

/-- The tasks that have a place. -/
def running (history : History β) : List Nat :=
  history.startedTasks.filter fun task => !history.stoppedTasks.contains task

def unsettled (history : History β) : List Nat :=
  history.stoppedTasks.filter fun task => !history.finished.contains task

def status? (history : History β) (task : Nat) : Option (TaskStatus β) :=
  (history.statuses.find? fun entry => entry.1 == task).map Prod.snd

def isKnown (history : History β) (task : Nat) : Bool :=
  history.launchedTasks.contains task || history.finished.contains task

def hasCompleted (history : History β) (task : Nat) : Bool :=
  ((history.status? task).map TaskStatus.isCompleted).getD false

/-! ## Launching -/

/-- Launches a task whose dependencies have all ended, or skips it if one did not complete. -/
def launch (graph : TaskGraph Nat) (history : History β) (task : Nat) : History β :=
  if history.isKnown task then history
  else
    match (graph.dependencies task).find? fun other => !history.hasCompleted other with
    | some dependency => .settled task (.skipped dependency) :: history
    | none => .launched task :: history

/-- Launches all tasks that can be. A skipped task can let others be skipped, so this is done
again until nothing more is skipped; `budget` bounds how often. -/
def launchReady (graph : TaskGraph Nat) : (budget : Nat) → History β → History β
  | 0, history => history
  | budget + 1, history =>
      let next := (graph.ready history.finished).foldl (launch graph) history
      if next.finished.length = history.finished.length then next
      else launchReady graph budget next

end History

namespace TaskGroup

variable {β : Type}

/-! ## Building -/

def add (group : TaskGroup β) (task : Task β) : TaskGroup β × Nat :=
  ({ group with tasks := group.tasks ++ [task] }, group.tasks.length)

def addAll (group : TaskGroup β) (tasks : List (Task β)) : TaskGroup β :=
  tasks.foldl (fun group task => (group.add task).1) group

def size (group : TaskGroup β) : Nat := group.tasks.length

def limit (group : TaskGroup β) : Nat := max 1 group.maxConcurrent

def graph (group : TaskGroup β) : Except Nat (TaskGraph Nat) :=
  TaskGraph.ofTasks (group.tasks.zipIdx.map fun (task, place) => (place, task.dependencies))

def statusOf? (group : TaskGroup β) (place : Nat) : Option (TaskStatus β) :=
  (group.tasks[place]?).map fun task =>
    .ofWork (task.timeout.getD group.defaultTimeout) task.work

/-! ## Running -/

/-- What can happen next: a task that waits takes a free place, a running task comes to its end,
or the group takes note of an end. -/
def possible (group : TaskGroup β) (history : History β) : List (TaskEvent β) :=
  (if history.running.length < group.limit then history.waiting.map .started else [])
    ++ history.running.map .stopped
    ++ history.unsettled.filterMap fun place =>
        (group.statusOf? place).map (.settled place)

def next? (group : TaskGroup β) (history : History β) (choice : Nat) : Option (TaskEvent β) :=
  let events := group.possible history
  events[choice % events.length]?

/-- Lets an event happen. When an end is noted, further tasks are launched. -/
def advance (group : TaskGroup β) (graph : TaskGraph Nat) (history : History β) :
    TaskEvent β → History β
  | .settled task status =>
      History.launchReady graph (group.size + 1) (.settled task status :: history)
  | event => event :: history

/-- Goes on until nothing more can happen. `order` selects what happens each time, the first
possible event where it says nothing more; `budget` bounds how often. -/
def runFrom (group : TaskGroup β) (graph : TaskGraph Nat) :
    (budget : Nat) → (order : List Nat) → History β → History β
  | 0, _, history => history
  | budget + 1, order, history =>
      match group.next? history (order.headD 0) with
      | some event => runFrom group graph budget order.tail (group.advance graph history event)
      | none => history

/-- Runs all tasks, and gives what happened with the fault that kept them from running, if there
was one. To each task at most four things happen. -/
def run (group : TaskGroup β) (order : List Nat) : History β × Option TaskFault :=
  match group.graph with
  | .error task => ([], some (.unknownDependency task))
  | .ok graph =>
      if graph.hasCycle then ([], some .cyclicDependency)
      else
        (group.runFrom graph (4 * group.size) order
          (History.launchReady graph (group.size + 1) []), none)

def wait (group : TaskGroup β) (order : List Nat) : Except TaskFault (History β) :=
  match group.run order with
  | (_, some fault) => .error fault
  | (history, none) => .ok history

end TaskGroup

end LiterateTest
