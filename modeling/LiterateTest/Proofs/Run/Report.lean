import LiterateTest.Proofs.Run.Suite

/-! What a run reports and leaves in its tree. The tasks of a run are those of its build and its
tests, so that everything follows from what a group promises for its tasks. -/

namespace LiterateTest

namespace Suite

open TaskGroup History

/-! ## The build -/

theorem passed_of_outcome {step : BuildStep} {run : ProcessRun} {result : TestResult}
    (value : step.outcome run = .value result) : result.passed = true := by
  rw [BuildStep.outcome] at value
  split at value
  · dsimp only at value
    split at value
    · cases value
      rfl
    · cases value
  · cases value
  · cases value

theorem passed_ofStatus_build {step : BuildStep} {run : ProcessRun} {limit elapsed : Duration} :
    (TestResult.ofStatus BuildStep.reportName
      (.ofWork limit { outcome := step.outcome run, elapsed })).passed =
        (TaskStatus.ofWork limit { outcome := step.outcome run, elapsed }).isCompleted := by
  rw [TaskStatus.ofWork]
  split
  · rfl
  · cases outcome : step.outcome run with
    | value result =>
        simpa [TestResult.ofStatus, TaskStatus.isCompleted] using passed_of_outcome outcome
    | failure message =>
        simp [TestResult.ofStatus, TaskStatus.isCompleted, TestResult.ofFail, TestResult.passed]
    | panic message => rfl
    | endless => rfl

/-! ## The report -/

/-- What a run of a tree promises, given what happened to its tasks. A fixture is run by its type
just when its task starts. -/
structure Reported (registry : Registry) (settings : Settings) (machine : Machine) (tree : Node)
    (history : History TestResult) (report : RunReport) (after : Node) : Prop where
  /-- The tests are the same, in the same order. -/
  same_tests : (after.tests.map fun test => (test.info.id, test.info.test)) =
    tree.tests.map fun test => (test.info.id, test.info.test)
  /-- There is one task for each test, besides that of the build. -/
  one_task_each : (plan registry settings machine tree).group.size =
    firstTest settings machine tree + tree.tests.length
  own_task : ∀ (index : Nat) (test : Node) (fixture : Fixture), tree.tests[index]? = some test →
    test.info.test = some fixture →
      (plan registry settings machine tree).group.tasks[firstTest settings machine tree + index]? =
        some (testTask registry settings (builtMachine machine tree)
          (List.range (firstTest settings machine tree))
          { id := test.info.id, fixture, place := firstTest settings machine tree + index })
  /-- Each test holds the result of its own task. -/
  own_result : ∀ (index : Nat) (test : Node) (fixture : Fixture), tree.tests[index]? = some test →
    test.info.test = some fixture →
      ∃ status judged, history.status? (firstTest settings machine tree + index) = some status ∧
        after.tests[index]? = some judged ∧
        judged.info.result = some (.ofStatus fixture.name status)
  root_stats : report.stats = after.info.stats
  total_eq : report.stats.total = tree.tests.length
  total_parts : report.stats.total =
    report.stats.passed + report.stats.failed + report.stats.skipped
  /-- A build is reported just if some test asks for one. -/
  build_iff : report.build.isSome = true ↔ ∃ test ∈ tree.tests, ∃ script, BuildStep.Asks test script
  /-- The build is the first task, and the one that is asked for first. -/
  build_first : ∀ build, report.build = some build →
    ∃ step before test after status, tree.tests = before ++ test :: after ∧
      BuildStep.Asks test step.script ∧ (∀ other ∈ before, ¬∃ script, BuildStep.Asks other script) ∧
      (plan registry settings machine tree).group.tasks[0]? =
        some (buildTask settings step (machine.run step.process)) ∧
      history.status? 0 = some status ∧ build = .ofStatus BuildStep.reportName status ∧
      build.passed = status.isCompleted
  /-- No fixture is run before the build has completed. -/
  build_before : report.build.isSome = true → ∀ place (earlier : History TestResult), place ≠ 0 →
    .started place :: earlier <:+ history → earlier.hasCompleted 0 = true
  /-- If the build does not complete, no fixture is run and all tests are skipped. -/
  build_failed : report.build.isSome = true → history.hasCompleted 0 = false →
    (∀ place, place ≠ 0 → .started place ∉ history) ∧
      ∀ test ∈ after.tests, ∃ result, test.info.result = some result ∧ result.status = .skip
  /-- Otherwise no task is skipped: each runs once, and ends in its own way. -/
  build_completed : report.build = none ∨ history.hasCompleted 0 = true →
    ∀ place < (plan registry settings machine tree).group.size,
      (∀ dependency, history.status? place ≠ some (.skipped dependency)) ∧
        history.startedTasks.count place = 1 ∧
        history.status? place = (plan registry settings machine tree).group.statusOf? place

section

variable {registry : Registry} {settings : Settings} {machine : Machine} {tree : Node}
  {history : History TestResult}

theorem size_plan (fresh : tree.Fresh) :
    (plan registry settings machine tree).group.size =
      firstTest settings machine tree + tree.tests.length := by
  rw [TaskGroup.size, tasks_plan, List.length_append, List.length_map, length_testSlots fresh]
  rfl

theorem task_of_test (fresh : tree.Fresh) {index : Nat} {test : Node} {fixture : Fixture}
    (isTest : tree.tests[index]? = some test) (loaded : test.info.test = some fixture) :
    (plan registry settings machine tree).group.tasks[firstTest settings machine tree + index]? =
      some (testTask registry settings (builtMachine machine tree)
        (List.range (firstTest settings machine tree))
        { id := test.info.id, fixture, place := firstTest settings machine tree + index }) := by
  have beyond : (buildTasks settings machine tree).length ≤
      firstTest settings machine tree + index := by
    rw [← firstTest]
    omega
  rw [tasks_plan, List.getElem?_append_right beyond, ← firstTest, Nat.add_sub_cancel_left,
    List.getElem?_map, getElem?_testSlots fresh, isTest, Option.bind_some, loaded]
  rfl

theorem place_lt_size (fresh : tree.Fresh) {index : Nat} (inside : index < tree.tests.length) :
    firstTest settings machine tree + index <
      (plan registry settings machine tree).group.size := by
  rw [size_plan fresh]
  omega

theorem judged_test (fresh : tree.Fresh) {index : Nat} {test : Node} {fixture : Fixture}
    (isTest : tree.tests[index]? = some test) (loaded : test.info.test = some fixture) :
    ∃ judged, (complete (plan registry settings machine tree) history tree).2.tests[index]? =
        some judged ∧
      judged.info.result = some (slotResult history
        { id := test.info.id, fixture, place := firstTest settings machine tree + index }) := by
  have tests := tests_of_complete (plan registry settings machine tree) history fresh rfl
  have atIndex := congrArg (fun infos : List NodeInfo => infos[index]?) tests
  simp only [List.getElem?_map, isTest, Option.map_some] at atIndex
  rcases Option.map_eq_some_iff.mp atIndex with ⟨judged, found, same⟩
  refine ⟨judged, found, ?_⟩
  have sameResult := congrArg NodeInfo.result same
  rw [attachResult_eq fresh rfl isTest loaded] at sameResult
  exact sameResult

theorem id_attachResult (plan : Plan) (history : History TestResult) (info : NodeInfo) :
    (attachResult plan history info).id = info.id ∧
      (attachResult plan history info).test = info.test := by
  rw [attachResult]
  split
  · rw [NodeInfo.attach]
    split <;> exact ⟨rfl, rfl⟩
  · exact ⟨rfl, rfl⟩

theorem same_tests (fresh : tree.Fresh) :
    ((complete (plan registry settings machine tree) history tree).2.tests.map fun test =>
        (test.info.id, test.info.test)) =
      tree.tests.map fun test => (test.info.id, test.info.test) := by
  have tests := tests_of_complete (plan registry settings machine tree) history fresh rfl
  have parts := congrArg (List.map fun info : NodeInfo => (info.id, info.test)) tests
  rw [List.map_map, List.map_map] at parts
  refine parts.trans (List.map_congr_left fun test _ => ?_)
  have kept := id_attachResult (plan registry settings machine tree) history test.info
  exact Prod.ext kept.1 kept.2

theorem firstTest_of_none (none : BuildStep.ofTree? tree = none) :
    firstTest settings machine tree = 0 := by
  rw [firstTest_eq, none]
  rfl

theorem firstTest_of_some {step : BuildStep} (found : BuildStep.ofTree? tree = some step) :
    firstTest settings machine tree = 1 := by
  rw [firstTest_eq, found]
  rfl

theorem task_of_build {step : BuildStep} (found : BuildStep.ofTree? tree = some step) :
    (plan registry settings machine tree).group.tasks[0]? =
      some (buildTask settings step (machine.run step.process)) := by
  rw [tasks_plan, buildTasks, buildRun?, found]
  rfl

theorem dependsOn_of_build {step : BuildStep} (found : BuildStep.ofTree? tree = some step)
    {place dependency : Nat} :
    DependsOn (plan registry settings machine tree).group.tasks place dependency ↔
      (place ≠ 0 ∧ place < (plan registry settings machine tree).group.size) ∧ dependency = 0 := by
  rw [dependsOn_plan, firstTest_of_some found]
  omega

/-! ## After the tasks -/

section

variable {limit : Nat}
  (orderly : Orderly limit (plan registry settings machine tree).group.tasks
    (plan registry settings machine tree).group.statusOf? history)
include orderly

theorem exists_status {place : Nat}
    (listed : place < (plan registry settings machine tree).group.size) :
    ∃ status, history.status? place = some status := by
  apply mem_finished_iff_status?.mp
  rw [orderly.ended.mem_iff, List.mem_range]
  exact listed

theorem exists_build_status {step : BuildStep} (found : BuildStep.ofTree? tree = some step) :
    ∃ status, history.status? 0 = some status ∧
      (complete (plan registry settings machine tree) history tree).1.build =
        some (.ofStatus BuildStep.reportName status) := by
  have listed : 0 < (plan registry settings machine tree).group.size :=
    (List.getElem?_eq_some_iff.mp (task_of_build found)).1
  rcases exists_status orderly listed with ⟨status, isStatus⟩
  refine ⟨status, isStatus, ?_⟩
  have hasBuild : (plan registry settings machine tree).hasBuild = true := by
    rw [plan, found]
    rfl
  simp only [complete, if_pos hasBuild, isStatus, Option.map_some]

theorem isSome_build :
    (complete (plan registry settings machine tree) history tree).1.build.isSome =
      (BuildStep.ofTree? tree).isSome := by
  cases found : BuildStep.ofTree? tree with
  | none => simp [complete, plan, found]
  | some step =>
      rcases exists_build_status orderly found with ⟨status, -, report⟩
      rw [report]
      rfl

theorem build_status {step : BuildStep} (found : BuildStep.ofTree? tree = some step) :
    history.status? 0 = some (.ofWork settings.buildTimeout
      { outcome := step.outcome (machine.run step.process)
        elapsed := (machine.run step.process).elapsed }) := by
  have task : (plan registry settings machine tree).group.tasks[0]? =
      some (buildTask settings step (machine.run step.process)) := task_of_build found
  have notSkipped : ¬∃ dependency, history.status? 0 = some (.skipped dependency) := by
    rintro ⟨dependency, skipped⟩
    have depends := (orderly.skipped_names 0 dependency skipped).1
    exact ((dependsOn_of_build found).mp depends).1.1 rfl
  rw [(orderly.others_run 0 (List.getElem?_eq_some_iff.mp task).1 notSkipped).2, statusOf?, task]
  rfl

theorem skipped_of_build_failed {step : BuildStep} (found : BuildStep.ofTree? tree = some step)
    (incomplete : history.hasCompleted 0 = false) {place : Nat} (isTest : place ≠ 0)
    (listed : place < (plan registry settings machine tree).group.size) :
    history.status? place = some (.skipped 0) := by
  have depends := (dependsOn_of_build found).mpr ⟨⟨isTest, listed⟩, rfl⟩
  rcases (orderly.skipped_iff place listed).mpr ⟨0, depends, incomplete⟩ with ⟨named, skipped⟩
  have names := (dependsOn_of_build found).mp (orderly.skipped_names place named skipped).1
  rw [skipped, names.2]

theorem not_skipped (built : BuildStep.ofTree? tree = none ∨ history.hasCompleted 0 = true)
    {place dependency : Nat} : history.status? place ≠ some (.skipped dependency) := by
  intro skipped
  have ⟨depends, incomplete⟩ := orderly.skipped_names place dependency skipped
  have isBuild := ((dependsOn_plan registry settings machine tree).mp depends).2
  rcases built with none | completed
  · rw [firstTest_of_none none] at isBuild
    omega
  · have first : firstTest settings machine tree ≤ 1 := by
      rw [firstTest_eq]
      split <;> omega
    have same : dependency = 0 := by omega
    rw [same, completed] at incomplete
    cases incomplete

theorem skipped_tests (fresh : tree.Fresh) {step : BuildStep}
    (found : BuildStep.ofTree? tree = some step) (incomplete : history.hasCompleted 0 = false) :
    ∀ judged ∈ (complete (plan registry settings machine tree) history tree).2.tests,
      ∃ result, judged.info.result = some result ∧ result.status = .skip := by
  intro judged member
  rcases List.getElem?_of_mem member with ⟨index, isJudged⟩
  have inside := (List.getElem?_eq_some_iff.mp isJudged).1
  rw [length_tests_of_complete fresh rfl] at inside
  rcases exists_fixture fresh (List.getElem_mem inside) with ⟨fixture, loaded⟩
  have isTest := List.getElem?_eq_getElem inside
  rcases judged_test fresh isTest loaded with ⟨same, isSame, result⟩
  rw [isJudged] at isSame
  cases isSame
  refine ⟨_, result, ?_⟩
  have skipped := skipped_of_build_failed orderly found incomplete
    (by rw [firstTest_of_some found]; omega) (place_lt_size fresh inside)
  rw [slotResult, skipped]
  rfl

theorem reported (fresh : tree.Fresh) :
    Reported registry settings machine tree history
      (complete (plan registry settings machine tree) history tree).1
      (complete (plan registry settings machine tree) history tree).2 := by
  have hasBuild {report : Option TestResult}
      (isReport : (complete (plan registry settings machine tree) history tree).1.build = report)
      (isSome : report.isSome = true) : ∃ step, BuildStep.ofTree? tree = some step := by
    rw [← isReport, isSome_build orderly] at isSome
    exact Option.isSome_iff_exists.mp isSome
  constructor
  case same_tests => exact same_tests fresh
  case one_task_each => exact size_plan fresh
  case own_task =>
    intro index test fixture isTest loaded
    exact task_of_test fresh isTest loaded
  case own_result =>
    intro index test fixture isTest loaded
    have inside := (List.getElem?_eq_some_iff.mp isTest).1
    rcases exists_status orderly (place_lt_size fresh inside) with ⟨status, isStatus⟩
    rcases judged_test fresh isTest loaded with ⟨judged, found, result⟩
    refine ⟨status, judged, isStatus, found, ?_⟩
    rw [result, slotResult, isStatus]
  case root_stats => exact stats_of_complete.1
  case total_eq => exact total_of_complete fresh rfl
  case total_parts =>
    rw [stats_of_complete.2]
    exact NodeInfo.total_count_eq _
  case build_iff =>
    rw [isSome_build orderly]
    exact BuildStep.ofTree?_isSome_iff
  case build_first =>
    intro build isBuild
    rcases hasBuild isBuild rfl with ⟨step, found⟩
    rcases BuildStep.asks_first found with ⟨before, test, after, split, asks, first⟩
    rcases exists_build_status orderly found with ⟨status, isStatus, report⟩
    have own := build_status orderly found
    rw [isStatus] at own
    cases own
    rw [report] at isBuild
    cases isBuild
    exact ⟨step, before, test, after, _, split, asks, first, task_of_build found, isStatus, rfl,
      passed_ofStatus_build⟩
  case build_before =>
    intro isSome place earlier isTest moment
    rcases hasBuild rfl isSome with ⟨step, found⟩
    have listed := orderly.started_listed place (moment.subset List.mem_cons_self)
    exact orderly.dependencies_first place earlier (.inr moment) 0
      ((dependsOn_of_build found).mpr ⟨⟨isTest, listed⟩, rfl⟩)
  case build_failed =>
    intro isSome incomplete
    rcases hasBuild rfl isSome with ⟨step, found⟩
    constructor
    · intro place isTest started
      have listed := orderly.started_listed place started
      have skipped := skipped_of_build_failed orderly found incomplete isTest listed
      exact orderly.skipped_never_starts place 0 skipped started
    · exact skipped_tests orderly fresh found incomplete
  case build_completed =>
    intro built place listed
    have noSkip : ∀ dependency, history.status? place ≠ some (.skipped dependency) := by
      intro dependency
      apply not_skipped orderly
      rcases built with none | completed
      · left
        have isSome := isSome_build orderly
        rw [none] at isSome
        simpa using isSome.symm
      · exact .inr completed
    exact ⟨noSkip, orderly.others_run place listed fun ⟨dependency, skipped⟩ =>
      noSkip dependency skipped⟩

end

end

end Suite

end LiterateTest
