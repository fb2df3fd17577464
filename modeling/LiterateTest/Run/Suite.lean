import LiterateTest.Run.Exec
import LiterateTest.Run.Settings
import LiterateTest.Tree.Node

/-! Running a tree of tests: first the build that its documents ask for, then all tests next to
each other. Each test gets a result; tests whose build failed are skipped. -/

namespace LiterateTest

/-! ## The build -/

structure BuildStep where
  script : String
  directory : String
  env : Record String
  deriving DecidableEq, Repr

namespace BuildStep

def reportName : String := "build"

def ofFixture? (fixture : Fixture) : Option BuildStep :=
  let script := Text.trim fixture.frontMatter.build
  let base := if fixture.sourceDir = "" then "." else fixture.sourceDir
  let inner := Text.trim fixture.frontMatter.cwd
  if script = "" then none
  else some {
    script
    directory := if inner = "" then base else Path.join base inner
    env := fixture.frontMatter.env }

def ofTree? (tree : Node) : Option BuildStep :=
  tree.tests.findSome? fun test => test.info.test.bind ofFixture?

def process (step : BuildStep) : Process := .ofScript step.script step.directory step.env

def outcome (step : BuildStep) (run : ProcessRun) : TaskOutcome TestResult :=
  match run.ending with
  | .exited stdout stderr exitCode =>
      let stdout := Text.decodeUtf8Lossy stdout
      let stderr := Text.decodeUtf8Lossy stderr
      if exitCode = 0 then
        .value { name := reportName, status := .pass, command := step.process.describe
                 stdout, stderr, exitCode := some exitCode, duration := run.elapsed }
      else
        .failure ("build \x60" ++ step.script ++ "\x60 exited with code " ++ toString exitCode
          ++ ": " ++ Text.trim stderr)
  | .notStarted fault =>
      .failure ("failed to run build \x60" ++ step.script ++ "\x60: " ++ fault.message)
  | .endless => .endless

end BuildStep

/-! ## Results -/

/-- The result of a build or test that ended in some way. What kept a test from being judged is
an error; what kept a build from passing is a failure. -/
def TestResult.ofStatus (name : String) : TaskStatus TestResult → TestResult
  | .completed result => result
  | .failed message =>
      if name = BuildStep.reportName then .ofFail name message else .ofError name message
  | .timedOut limit => .ofError name ("timed out after " ++ limit.secondsText ++ "s")
  | .skipped _ => .ofSkip name "skipped: build failed"
  | .panicked message => .ofError name ("fixture panicked: " ++ message)

structure RunReport where
  stats : Stats
  /-- The result of the build, if the documents ask for one. -/
  build : Option TestResult
  deriving DecidableEq, Repr

namespace RunReport

def buildFailed (report : RunReport) : Bool := report.build.any fun build => !build.passed

def succeeded (report : RunReport) : Bool := !report.stats.hasFailures && !report.buildFailed

end RunReport

/-! ## Running -/

def runTest (registry : Registry) (machine : Machine) (options : RunOptions) (occasion : Nat)
    (fixture : Fixture) : TaskWork TestResult :=
  match registry.typeOf fixture with
  | .error fault => { outcome := .value (.ofError fixture.name fault.message) }
  | .ok type =>
      match type.check fixture with
      | some fault => { outcome := .value (.ofError fixture.name fault.message) }
      | none => type.run machine options occasion fixture

structure TestSlot where
  /-- Of the node with the test. -/
  id : Nat
  fixture : Fixture
  /-- The place of its task in the group. -/
  place : Nat
  deriving DecidableEq, Repr

def testSlots (first : Nat) (tree : Node) : List TestSlot :=
  let tests := tree.tests.filterMap fun test => test.info.test.map (test.info.id, ·)
  tests.zipIdx.map fun ((id, fixture), index) => { id, fixture, place := first + index }

namespace Suite

structure Plan where
  group : TaskGroup TestResult
  hasBuild : Bool
  slots : List TestSlot

def buildRun? (machine : Machine) (tree : Node) : Option (BuildStep × ProcessRun) :=
  (BuildStep.ofTree? tree).map fun step => (step, machine.run step.process)

/-- The machine on which tests run: they find the files that the build leaves. -/
def builtMachine (machine : Machine) (tree : Node) : Machine :=
  match buildRun? machine tree with
  | some (_, run) => machine.after run
  | none => machine

def buildTask (settings : Settings) (step : BuildStep) (run : ProcessRun) : Task TestResult where
  timeout := some settings.buildTimeout
  work := { outcome := step.outcome run, elapsed := run.elapsed }

def testTask (registry : Registry) (settings : Settings) (machine : Machine)
    (dependencies : List Nat) (slot : TestSlot) : Task TestResult where
  dependencies
  timeout := slot.fixture.timeout
  work := runTest registry machine settings.options slot.place slot.fixture

def buildTasks (settings : Settings) (machine : Machine) (tree : Node) : List (Task TestResult) :=
  ((buildRun? machine tree).map fun (step, run) => buildTask settings step run).toList

/-- The plan for a tree. The build is the first task, and all tests depend on it. -/
def plan (registry : Registry) (settings : Settings) (machine : Machine) (tree : Node) : Plan :=
  let build := buildTasks settings machine tree
  let slots := testSlots build.length tree
  let tests := slots.map <|
    testTask registry settings (builtMachine machine tree) (List.range build.length)
  { group :=
      { maxConcurrent := settings.maxConcurrent.getD 1
        defaultTimeout := settings.defaultTimeout
        tasks := build ++ tests }
    hasBuild := (BuildStep.ofTree? tree).isSome
    slots }

def slotResult (history : History TestResult) (slot : TestSlot) : TestResult :=
  match history.status? slot.place with
  | some status => .ofStatus slot.fixture.name status
  | none => .ofError slot.fixture.name "scheduler returned no result"

def attachResult (plan : Plan) (history : History TestResult) (info : NodeInfo) : NodeInfo :=
  match plan.slots.find? fun slot => slot.id == info.id with
  | some slot => (info.attach (slotResult history slot)).1
  | none => info

def complete (plan : Plan) (history : History TestResult) (tree : Node) : RunReport × Node :=
  let build :=
    if plan.hasBuild then
      (history.status? 0).map (TestResult.ofStatus BuildStep.reportName)
    else none
  let counted := (tree.mapTests (attachResult plan history)).withStats
  ({ stats := counted.info.stats, build }, counted.prune)

/-- Runs a tree of tests whose nodes have different numbers. `order` says what happens first where
several things can. -/
def run (registry : Registry) (settings : Settings) (machine : Machine) (order : List Nat)
    (tree : Node) : Except TaskFault (RunReport × Node) := do
  let plan := plan registry settings machine tree
  let history ← plan.group.wait order
  return complete plan history tree

end Suite

end LiterateTest
