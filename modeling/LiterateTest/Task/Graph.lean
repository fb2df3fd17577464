/-! Graphs of tasks: which tasks have to be finished before others can start.

A task may be listed more than once. Its dependencies are then those of all entries, and count
for the last entry only. -/

namespace LiterateTest

/-- Entries in the order in which they were added, each with the tasks it waits for, the latest
first. -/
structure TaskGraph (α : Type) where
  entries : List (α × List α) := []
  deriving DecidableEq, Repr

namespace TaskGraph

variable {α : Type} [DecidableEq α]

/-! ## Building -/

def collect (tasks : List (α × List α)) (task : α) : List α :=
  ((tasks.filter fun entry => entry.1 = task).flatMap Prod.snd).reverse

/-- Moves the dependencies of each task to its last entry. -/
def entriesOf (tasks : List (α × List α)) : List (α × List α) → List (α × List α)
  | [] => []
  | (task, _) :: rest =>
      (task, if rest.any (fun entry => entry.1 = task) then [] else collect tasks task)
        :: entriesOf tasks rest

def unknown? (tasks : List (α × List α)) : Option α :=
  (tasks.flatMap Prod.snd).find? fun dependency =>
    !tasks.any fun entry => entry.1 = dependency

def ofTasks (tasks : List (α × List α)) : Except α (TaskGraph α) :=
  match unknown? tasks with
  | some dependency => .error dependency
  | none => .ok { entries := entriesOf tasks tasks }

/-! ## Asking -/

def size (graph : TaskGraph α) : Nat := graph.entries.length

def dependencies (graph : TaskGraph α) (task : α) : List α :=
  ((graph.entries.reverse.find? fun entry => entry.1 = task).map Prod.snd).getD []

/-- The tasks that are not finished and whose dependencies all are, in the order in which they
were added. -/
def ready (graph : TaskGraph α) (finished : List α) : List α :=
  (graph.entries.filter fun (task, dependencies) =>
    !finished.contains task && dependencies.all finished.contains).map Prod.fst

def reachable (graph : TaskGraph α) : (steps : Nat) → List α → List α
  | 0, tasks => tasks
  | steps + 1, tasks =>
      let next := (tasks.flatMap graph.dependencies).eraseDups
      if next.isEmpty then tasks else tasks ++ reachable graph steps next

def hasCycle (graph : TaskGraph α) : Bool :=
  graph.entries.any fun (task, dependencies) =>
    (reachable graph graph.size dependencies).contains task

example : (ofTasks [("a", ["b"]), ("b", ["a"])]).toOption.map hasCycle = some true := by decide
example : (ofTasks [("a", []), ("b", ["a", "a"])]).toOption.map hasCycle = some false := by
  decide
example : (ofTasks [("a", ["c"])]).toOption.map size = none := by decide

end TaskGraph

end LiterateTest
