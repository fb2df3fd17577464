import LiterateTest.Proofs.Record
import LiterateTest.Proofs.Run.Report

/-! Tests do not depend on each other: what a test comes out with is settled by its own fixture,
whatever else is in the tree, whichever task ends first, and however the other tests end. -/

namespace LiterateTest

/-! ## Types whose runs are alike -/

namespace Registry

/-- Each type does the same with a fixture under the same options, wherever and whenever that is. -/
def Fixed (registry : Registry) : Prop :=
  ∀ entry ∈ registry, ∃ work : RunOptions → Fixture → TaskWork TestResult,
    ∀ machine options occasion fixture,
      entry.2.run machine options occasion fixture = work options fixture

theorem exists_mem_of_typeOf {registry : Registry} {fixture : Fixture} {type : FixtureType}
    (found : registry.typeOf fixture = .ok type) : ∃ name, (name, type) ∈ registry := by
  rw [typeOf] at found
  split at found
  · cases found
  · next name _ =>
      split at found
      · next isType =>
          cases found
          exact ⟨name, Record.mem_of_get? isType⟩
      · cases found

end Registry

theorem runTest_eq_of_fixed {registry : Registry} (fixed : registry.Fixed)
    (machine other : Machine) (options : RunOptions) (occasion otherOccasion : Nat)
    (fixture : Fixture) :
    runTest registry machine options occasion fixture =
      runTest registry other options otherOccasion fixture := by
  rw [runTest, runTest]
  cases found : registry.typeOf fixture with
  | error fault => rfl
  | ok type =>
      dsimp only
      cases type.check fixture with
      | some fault => rfl
      | none =>
          rcases Registry.exists_mem_of_typeOf found with ⟨name, member⟩
          rcases fixed (name, type) member with ⟨work, alike⟩
          exact (alike machine options occasion fixture).trans
            (alike other options otherOccasion fixture).symm

/-! ## Results of single tests -/

def Node.resultOf? (tree : Node) (id : Nat) : Option TestResult :=
  (tree.tests.find? fun test => test.info.id == id).bind fun test => test.info.result

namespace Suite

open TaskGroup History

section

variable {registry : Registry} {settings : Settings} {machine : Machine} {tree : Node}
  {history : History TestResult} {report : RunReport} {after : Node}

def ownResult (registry : Registry) (settings : Settings) (machine : Machine) (place : Nat)
    (fixture : Fixture) : TestResult :=
  .ofStatus fixture.name <|
    .ofWork (fixture.timeout.getD settings.defaultTimeout)
      (runTest registry machine settings.options place fixture)

theorem Reported.built (reported : Reported registry settings machine tree history report after)
    (passes : report.buildFailed = false) :
    report.build = none ∨ history.hasCompleted 0 = true := by
  cases isBuild : report.build with
  | none => exact .inl rfl
  | some build =>
      right
      rcases reported.build_first build isBuild with
        ⟨step, before, test, rest, status, -, -, -, -, isStatus, -, passed⟩
      rw [RunReport.buildFailed, isBuild] at passes
      have completed : status.isCompleted = true := by
        rw [← passed]
        simpa using passes
      rw [hasCompleted, isStatus]
      exact completed

theorem Reported.resultOf?_eq (fresh : tree.Fresh)
    (reported : Reported registry settings machine tree history report after)
    (passes : report.buildFailed = false) {test : Node} (member : test ∈ tree.tests)
    {fixture : Fixture} (loaded : test.info.test = some fixture) :
    ∃ place, after.resultOf? test.info.id =
      some (ownResult registry settings (builtMachine machine tree) place fixture) := by
  rcases List.getElem?_of_mem member with ⟨index, isTest⟩
  let place := firstTest settings machine tree + index
  have inside := (List.getElem?_eq_some_iff.mp isTest).1
  have listed : place < (plan registry settings machine tree).group.size :=
    place_lt_size fresh inside
  rcases reported.own_result index test fixture isTest loaded with
    ⟨status, judged, isStatus, isJudged, result⟩
  -- The task of the test was not skipped, so that it ended in its own way.
  have own := (reported.build_completed (reported.built passes) place listed).2.2
  rw [isStatus, statusOf?, reported.own_task index test fixture isTest loaded] at own
  cases own
  -- The number of the test is that of no other test after the run.
  have tests := reported.same_tests
  have ids : (after.tests.map fun test => test.info.id) =
      tree.tests.map fun test => test.info.id := by
    have firsts := congrArg (List.map Prod.fst) tests
    rw [List.map_map, List.map_map] at firsts
    exact firsts
  have distinct : (after.tests.map fun test => test.info.id).Nodup := by
    rw [ids]
    exact ids_of_tests_nodup fresh
  have sameId : judged.info.id = test.info.id := by
    have atIndex := congrArg (fun numbers : List Nat => numbers[index]?) ids
    simpa [isJudged, isTest] using atIndex
  have found := find?_of_distinct distinct (List.mem_of_getElem? isJudged)
  refine ⟨place, ?_⟩
  rw [Node.resultOf?, ← sameId, found, Option.bind_some, result]
  rfl

end

theorem exists_reported (registry : Registry) (settings : Settings) (machine : Machine)
    (order : List Nat) {tree : Node} (fresh : tree.Fresh) :
    ∃ history report after, run registry settings machine order tree = .ok (report, after) ∧
      Reported registry settings machine tree history report after := by
  have sequential := sequential_plan registry settings machine tree
  have closed := closed_plan registry settings machine tree
  rcases ended_of_closed sequential closed order with ⟨history, graph, ended, ending⟩
  refine ⟨history, _, _, ?_, reported (ending.orderly sequential closed) fresh⟩
  rw [run, ended]
  rfl

/-- Two runs under the same registry and the same settings give tests with the same fixture the
same result, unless a build fails in one of them. Trees, machines and orders of events are
arbitrary. -/
theorem run_isolated (registry : Registry) (settings : Settings) (fixed : registry.Fixed)
    (machine other : Machine) (order otherOrder : List Nat) (tree otherTree : Node)
    (fresh : tree.Fresh) (otherFresh : otherTree.Fresh) :
    ∃ report after otherReport otherAfter,
      run registry settings machine order tree = .ok (report, after) ∧
      run registry settings other otherOrder otherTree = .ok (otherReport, otherAfter) ∧
      (report.buildFailed = false → otherReport.buildFailed = false →
        ∀ test ∈ tree.tests, ∀ otherTest ∈ otherTree.tests,
          test.info.test = otherTest.info.test →
            ∃ result, after.resultOf? test.info.id = some result ∧
              otherAfter.resultOf? otherTest.info.id = some result) := by
  rcases exists_reported registry settings machine order fresh with
    ⟨history, report, after, ran, reported⟩
  rcases exists_reported registry settings other otherOrder otherFresh with
    ⟨otherHistory, otherReport, otherAfter, otherRan, otherReported⟩
  refine ⟨report, after, otherReport, otherAfter, ran, otherRan, ?_⟩
  intro passes otherPasses test member otherTest otherMember same
  rcases exists_fixture fresh member with ⟨fixture, loaded⟩
  rcases reported.resultOf?_eq fresh passes member loaded with ⟨place, result⟩
  rcases otherReported.resultOf?_eq otherFresh otherPasses otherMember (same ▸ loaded) with
    ⟨otherPlace, otherResult⟩
  refine ⟨_, result, ?_⟩
  rw [otherResult, ownResult, ownResult]
  rw [runTest_eq_of_fixed fixed (builtMachine other otherTree) (builtMachine machine tree)
    settings.options otherPlace place fixture]

theorem run_isolated_of_panic :
    let type : FixtureType :=
      { name := Registry.execName
        check := fun fixture =>
          if fixture.exec = "invalid" then some (.invalidFixture fixture.name "no count") else none
        run := fun _ _ _ fixture =>
          { outcome :=
              if fixture.exec = "panic" then .panic "boom"
              else if fixture.exec = "hang" then .endless
              else .value (.ofFail fixture.name "1 != 2") } }
    let registry : Registry := [(Registry.execName, type)]
    let machine : Machine :=
      { files := {}
        execute := fun files _ => { ending := .exited [] [] 0, files } }
    let fixture : Fixture := { name := "counts", exec := "count" }
    let tree : Node := (Node.ofFile "one.md" [.ofTest fixture]).numbered
    let others : List Fixture :=
      [{ name := "a", exec := "panic", frontMatter := { build := "make" } }, { name := "b" },
        { name := "c", exec := "invalid" }, { name := "d", exec := "hang" }, fixture]
    let otherTree : Node :=
      (Node.ofFile "two.md" [.ofHeading 1 "All" (others.map Node.ofTest)]).numbered
    registry.Fixed ∧ tree.Fresh ∧ otherTree.Fresh ∧
      ∃ report after otherReport otherAfter,
        run registry {} machine [] tree = .ok (report, after) ∧
        run registry {} machine [0, 3, 1, 4] otherTree = .ok (otherReport, otherAfter) ∧
        report.buildFailed = false ∧ otherReport.buildFailed = false ∧
        ∃ test ∈ tree.tests, ∃ otherTest ∈ otherTree.tests,
          test.info.test = some fixture ∧ otherTest.info.test = some fixture ∧
          ∃ result, after.resultOf? test.info.id = some result ∧
            otherAfter.resultOf? otherTest.info.id = some result := by
  intro type registry machine fixture tree others otherTree
  have fixed : registry.Fixed := by
    intro entry member
    cases List.mem_singleton.mp member
    exact ⟨fun options fixture => type.run machine options 0 fixture, fun _ _ _ _ => rfl⟩
  have fresh : tree.Fresh := by decide
  have otherFresh : otherTree.Fresh := by decide
  rcases run_isolated registry {} fixed machine machine [] [0, 3, 1, 4] tree otherTree fresh
    otherFresh with ⟨report, after, otherReport, otherAfter, ran, otherRan, alike⟩
  have passes : report.buildFailed = false := by
    have value : ((run registry {} machine [] tree).map fun done => done.1.buildFailed).toOption =
        some false := by decide +kernel
    rw [ran] at value
    exact Option.some.inj value
  have otherPasses : otherReport.buildFailed = false := by
    have value : ((run registry {} machine [0, 3, 1, 4] otherTree).map
        fun done => done.1.buildFailed).toOption = some false := by decide +kernel
    rw [otherRan] at value
    exact Option.some.inj value
  have holds : some fixture ∈ tree.tests.map fun test => test.info.test := by decide +kernel
  have otherHolds : some fixture ∈ otherTree.tests.map fun test => test.info.test := by
    decide +kernel
  rcases List.mem_map.mp holds with ⟨test, member, loaded⟩
  rcases List.mem_map.mp otherHolds with ⟨otherTest, otherMember, otherLoaded⟩
  exact ⟨fixed, fresh, otherFresh, report, after, otherReport, otherAfter, ran, otherRan, passes,
    otherPasses, test, member, otherTest, otherMember, loaded, otherLoaded,
    alike passes otherPasses test member otherTest otherMember (loaded.trans otherLoaded.symm)⟩

end Suite

end LiterateTest
