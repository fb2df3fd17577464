import LiterateTest.Fixture.Basic
import LiterateTest.Fixture.Output

/-! Trees of tests: files, the headings in them with everything below, and the tests themselves,
in the order in which the documents have them. -/

namespace LiterateTest

/-! ## Counts -/

structure Stats where
  total : Nat := 0
  passed : Nat := 0
  /-- Tests that failed or could not be evaluated. -/
  failed : Nat := 0
  skipped : Nat := 0
  deriving DecidableEq, Repr

namespace Stats

def hasFailures (stats : Stats) : Bool := 0 < stats.failed

def ofStatus : Status → Stats
  | .pass => { total := 1, passed := 1 }
  | .fail => { total := 1, failed := 1 }
  | .error => { total := 1, failed := 1 }
  | .skip => { total := 1, skipped := 1 }

def add (left right : Stats) : Stats where
  total := left.total + right.total
  passed := left.passed + right.passed
  failed := left.failed + right.failed
  skipped := left.skipped + right.skipped

instance : Add Stats := ⟨add⟩

def sum (all : List Stats) : Stats := all.foldr (· + ·) {}

def ofStatuses (statuses : List Status) : Stats := sum (statuses.map ofStatus)

def ofResult (result : Option TestResult) : Stats :=
  (result.map fun found => ofStatus found.status).getD {}

end Stats

/-! ## Nodes -/

inductive NodeKind where
  | file
  | heading
  | test
  deriving DecidableEq, Repr

structure NodeInfo where
  kind : NodeKind
  /-- The path of a file, the text of a heading, or the name of a test. -/
  name : String
  /-- The level of a heading; otherwise 0. -/
  level : Nat := 0
  test : Option Fixture := none
  /-- Tells nodes of one tree apart. -/
  id : Nat := 0
  result : Option TestResult := none
  stats : Stats := {}
  deriving DecidableEq, Repr

inductive Node where
  | node (info : NodeInfo) (children : List Node)

namespace Node

def info : Node → NodeInfo
  | node info _ => info

def children : Node → List Node
  | node _ children => children

def isTest (tree : Node) : Bool := tree.info.kind == .test

def ofFile (name : String) (children : List Node) : Node :=
  node { kind := .file, name } children

def ofHeading (level : Nat) (name : String) (children : List Node) : Node :=
  node { kind := .heading, name, level } children

def ofTest (fixture : Fixture) : Node :=
  node { kind := .test, name := fixture.name, test := some fixture } []

/-! ## Walking -/

mutual
def all : Node → List Node
  | node info children => node info children :: allOf children

def allOf : List Node → List Node
  | [] => []
  | child :: rest => child.all ++ allOf rest
end

def tests (tree : Node) : List Node := tree.all.filter isTest

def testCount (tree : Node) : Nat := tree.tests.length

def find? (id : Nat) (tree : Node) : Option Node :=
  tree.all.find? fun found => found.info.id == id

def descend? : (path : List Nat) → Node → Option Node
  | [], tree => some tree
  | index :: path, tree => (tree.children[index]?).bind (descend? path)

def modifyAt (change : Node → Node) : (path : List Nat) → Node → Node
  | [], tree => change tree
  | index :: path, tree => node tree.info (tree.children.modify index (modifyAt change path))

def addChild (tree child : Node) : Node := node tree.info (tree.children ++ [child])

mutual
def mapTestsFrom (change : Nat → NodeInfo → NodeInfo) : (before : Nat) → Node → Nat × Node
  | before, node info children =>
      let isTest : Bool := info.kind == .test
      let (count, changed) :=
        mapTestsOfFrom change (if isTest then before + 1 else before) children
      (count, node (if isTest then change before info else info) changed)

def mapTestsOfFrom (change : Nat → NodeInfo → NodeInfo) :
    (before : Nat) → List Node → Nat × List Node
  | before, [] => (before, [])
  | before, child :: rest =>
      let (between, first) := mapTestsFrom change before child
      let (after, others) := mapTestsOfFrom change between rest
      (after, first :: others)
end

def mapTests (change : NodeInfo → NodeInfo) (tree : Node) : Node :=
  (mapTestsFrom (fun _ => change) 0 tree).2

mutual
def numberFrom : (next : Nat) → Node → Nat × Node
  | next, node info children =>
      let (after, numbered) := numberAllFrom (next + 1) children
      (after, node { info with id := next } numbered)

def numberAllFrom : (next : Nat) → List Node → Nat × List Node
  | next, [] => (next, [])
  | next, child :: rest =>
      let (between, first) := numberFrom next child
      let (after, others) := numberAllFrom between rest
      (after, first :: others)
end

def numbered (tree : Node) : Node := (numberFrom 0 tree).2

end Node

/-! ## Results -/

/-- Keeps the first result; says whether this is it. -/
def NodeInfo.attach (info : NodeInfo) (result : TestResult) : NodeInfo × Bool :=
  match info.result with
  | some _ => (info, false)
  | none => ({ info with result := some result }, true)

namespace Node

def attach (tree : Node) (result : TestResult) : Node × Bool :=
  let (info, attached) := tree.info.attach result
  (node info tree.children, attached)

mutual
def withStats : Node → Node
  | node info children =>
      let counted := withStatsOf children
      let below := Stats.sum (counted.map fun child => child.info.stats)
      node { info with stats := Stats.ofResult info.result + below } counted

def withStatsOf : List Node → List Node
  | [] => []
  | child :: rest => child.withStats :: withStatsOf rest
end

def isEmptyHeading (tree : Node) : Bool :=
  tree.info.kind == .heading && tree.info.stats.total == 0

mutual
/-- Takes out the headings below which nothing was counted. -/
def prune : Node → Node
  | node info children => node info (pruneAll children)

def pruneAll : List Node → List Node
  | [] => []
  | child :: rest =>
      if child.isEmptyHeading then pruneAll rest else child.prune :: pruneAll rest
end

end Node

end LiterateTest
