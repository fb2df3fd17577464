import LiterateTest.Proofs.Task.Schedule
import LiterateTest.Proofs.Tree.Node
import LiterateTest.Run.Suite

/-! Running a tree: every test comes out with the result of its own task, the counts are those of
the results, and nothing runs before the build has completed. -/

namespace LiterateTest

/-! ## Lists with keys -/

theorem getElem?_filterMap_of_isSome {α β : Type} {select : α → Option β} {items : List α}
    (all : ∀ item ∈ items, (select item).isSome = true) (index : Nat) :
    (items.filterMap select)[index]? = items[index]?.bind select := by
  induction items generalizing index with
  | nil => rfl
  | cons head tail induction =>
      rcases Option.isSome_iff_exists.mp (all head List.mem_cons_self) with ⟨value, found⟩
      rw [List.filterMap_cons_some found]
      cases index with
      | zero => simp [found]
      | succ index =>
          rw [List.getElem?_cons_succ, List.getElem?_cons_succ]
          exact induction (fun item member => all item (List.mem_cons_of_mem head member)) index

theorem find?_of_distinct {α : Type} {key : α → Nat} {items : List α}
    (distinct : (items.map key).Nodup) {item : α} (member : item ∈ items) :
    items.find? (fun other => key other == key item) = some item := by
  induction items with
  | nil => cases member
  | cons head tail induction =>
      rw [List.map_cons, List.nodup_cons] at distinct
      rcases List.mem_cons.mp member with equal | member
      · subst head
        simp
      · have different : key head ≠ key item := by
          intro same
          exact distinct.1 (same ▸ List.mem_map_of_mem member)
        rw [List.find?_cons_of_neg (by simpa using different)]
        exact induction distinct.2 member

/-! ## Trees that can be run -/

/-- A tree as it is before it is run. -/
structure Node.Fresh (tree : Node) : Prop where
  distinct : (tree.infos.map NodeInfo.id).Nodup
  loaded : ∀ info ∈ tree.infos, info.isTest = true → info.test.isSome = true
  unjudged : ∀ info ∈ tree.infos, info.result = none

instance (tree : Node) : Decidable tree.Fresh :=
  decidable_of_iff ((tree.infos.map NodeInfo.id).Nodup ∧
    (∀ info ∈ tree.infos, info.isTest = true → info.test.isSome = true) ∧
    ∀ info ∈ tree.infos, info.result = none)
  ⟨fun ⟨distinct, loaded, unjudged⟩ => ⟨distinct, loaded, unjudged⟩,
    fun ⟨distinct, loaded, unjudged⟩ => ⟨distinct, loaded, unjudged⟩⟩

theorem NodeInfo.isTest_of_mem_tests {tree : Node} {info : NodeInfo}
    (member : info ∈ tree.tests.map Node.info) : info ∈ tree.infos ∧ info.isTest = true := by
  rw [Node.map_info_tests] at member
  exact List.mem_filter.mp member

/-! ## The build -/

namespace BuildStep

theorem ofFixture?_eq_none_iff {fixture : Fixture} :
    ofFixture? fixture = none ↔ Text.trim fixture.frontMatter.build = "" := by
  simp [ofFixture?]

theorem script_of_ofFixture? {fixture : Fixture} {step : BuildStep}
    (found : ofFixture? fixture = some step) :
    step.script = Text.trim fixture.frontMatter.build ∧ step.script ≠ "" := by
  simp only [ofFixture?] at found
  split at found
  · cases found
  · next nonempty =>
      cases found
      exact ⟨rfl, nonempty⟩

def Asks (test : Node) (script : String) : Prop :=
  ∃ fixture, test.info.test = some fixture ∧ script = Text.trim fixture.frontMatter.build ∧
    script ≠ ""

theorem asks_iff {test : Node} :
    (∃ script, Asks test script) ↔ (test.info.test.bind ofFixture?).isSome = true := by
  constructor
  · rintro ⟨script, fixture, loaded, same, nonempty⟩
    rw [loaded, Option.bind_some, Option.isSome_iff_ne_none]
    intro none
    exact nonempty (same.trans (ofFixture?_eq_none_iff.mp none))
  · intro found
    rcases Option.isSome_iff_exists.mp found with ⟨step, isStep⟩
    rcases Option.bind_eq_some_iff.mp isStep with ⟨fixture, loaded, ofFixture⟩
    have script := script_of_ofFixture? ofFixture
    exact ⟨step.script, fixture, loaded, script.1, script.2⟩

theorem ofTree?_isSome_iff {tree : Node} :
    (ofTree? tree).isSome = true ↔ ∃ test ∈ tree.tests, ∃ script, Asks test script := by
  rw [ofTree?, List.findSome?_isSome_iff]
  constructor
  · rintro ⟨test, member, found⟩
    exact ⟨test, member, asks_iff.mpr found⟩
  · rintro ⟨test, member, asks⟩
    exact ⟨test, member, asks_iff.mp asks⟩

theorem asks_first {tree : Node} {step : BuildStep} (found : ofTree? tree = some step) :
    ∃ before test after, tree.tests = before ++ test :: after ∧ Asks test step.script ∧
      ∀ other ∈ before, ¬∃ script, Asks other script := by
  rcases List.findSome?_eq_some_iff.mp found with ⟨before, test, after, split, own, none⟩
  refine ⟨before, test, after, split, ?_, ?_⟩
  · rcases Option.bind_eq_some_iff.mp own with ⟨fixture, loaded, ofFixture⟩
    have script := script_of_ofFixture? ofFixture
    exact ⟨fixture, loaded, script.1, script.2⟩
  · intro other member asks
    have some := asks_iff.mp asks
    rw [none other member] at some
    cases some

end BuildStep

/-! ## Slots -/

section Slots

variable {tree : Node} (fresh : tree.Fresh)
include fresh

theorem isSome_of_mem_tests : ∀ test ∈ tree.tests,
    (test.info.test.map fun fixture => (test.info.id, fixture)).isSome = true := by
  intro test member
  have own := NodeInfo.isTest_of_mem_tests (List.mem_map_of_mem member)
  simpa using fresh.loaded test.info own.1 own.2

theorem getElem?_testSlots (first index : Nat) :
    (testSlots first tree)[index]? =
      (tree.tests[index]?).bind fun test => test.info.test.map fun fixture =>
        { id := test.info.id, fixture, place := first + index } := by
  simp only [testSlots, List.getElem?_map, List.getElem?_zipIdx,
    getElem?_filterMap_of_isSome (isSome_of_mem_tests fresh)]
  cases tree.tests[index]? with
  | none => rfl
  | some test => cases found : test.info.test <;> simp [found]

theorem length_testSlots (first : Nat) : (testSlots first tree).length = tree.tests.length := by
  simp only [testSlots, List.length_map, List.length_zipIdx]
  exact List.filterMap_length_eq_length.mpr (isSome_of_mem_tests fresh)

theorem map_id_testSlots (first : Nat) :
    (testSlots first tree).map TestSlot.id = tree.tests.map fun test => test.info.id := by
  apply List.ext_getElem?
  intro index
  rw [List.getElem?_map, List.getElem?_map, getElem?_testSlots fresh]
  cases found : tree.tests[index]? with
  | none => rfl
  | some test =>
      have loaded := isSome_of_mem_tests fresh test (List.mem_of_getElem? found)
      rw [Option.isSome_map] at loaded
      rcases Option.isSome_iff_exists.mp loaded with ⟨fixture, hasFixture⟩
      simp [hasFixture]

theorem ids_of_tests_nodup : (tree.tests.map fun test => test.info.id).Nodup := by
  have part : ((tree.infos.filter NodeInfo.isTest).map NodeInfo.id).Sublist
      (tree.infos.map NodeInfo.id) := (List.filter_sublist).map _
  rw [← Node.map_info_tests, List.map_map] at part
  exact part.nodup fresh.distinct

theorem find?_testSlots (first : Nat) {index : Nat} {test : Node} {fixture : Fixture}
    (isTest : tree.tests[index]? = some test) (loaded : test.info.test = some fixture) :
    (testSlots first tree).find? (fun slot => slot.id == test.info.id) =
      some { id := test.info.id, fixture, place := first + index } := by
  have distinct : ((testSlots first tree).map TestSlot.id).Nodup := by
    rw [map_id_testSlots fresh]
    exact ids_of_tests_nodup fresh
  have slot : (testSlots first tree)[index]? =
      some { id := test.info.id, fixture, place := first + index } := by
    rw [getElem?_testSlots fresh, isTest, Option.bind_some, loaded]
    rfl
  exact find?_of_distinct distinct (List.mem_of_getElem? slot)

end Slots

/-! ## Results -/

namespace Suite

open NodeInfo Node

variable {plan : Plan} {history : History TestResult} {tree : Node}

theorem attachResult_eq (fresh : tree.Fresh) {first : Nat}
    (slots : plan.slots = testSlots first tree) {index : Nat} {test : Node} {fixture : Fixture}
    (isTest : tree.tests[index]? = some test) (loaded : test.info.test = some fixture) :
    attachResult plan history test.info =
      { test.info with
        result := some (slotResult history
          { id := test.info.id, fixture, place := first + index }) } := by
  have own := isTest_of_mem_tests (List.mem_map_of_mem (List.mem_of_getElem? isTest))
  rw [attachResult, slots, find?_testSlots fresh first isTest loaded]
  simp only [NodeInfo.attach, fresh.unjudged test.info own.1]

theorem exists_fixture {test : Node} (fresh : tree.Fresh) (member : test ∈ tree.tests) :
    ∃ fixture, test.info.test = some fixture := by
  have own := isTest_of_mem_tests (List.mem_map_of_mem member)
  exact Option.isSome_iff_exists.mp (fresh.loaded test.info own.1 own.2)

/-- The tree with its results and counts, before empty headings are taken out. -/
def judgedTree (plan : Plan) (history : History TestResult) (tree : Node) : Node :=
  (tree.mapTests (attachResult plan history)).withStats

theorem uncounted_judgedTree (plan : Plan) (history : History TestResult) (tree : Node) :
    (judgedTree plan history tree).infos.map uncounted =
      tree.infos.map fun info => uncounted (changeIfTest (attachResult plan history) info) := by
  rw [judgedTree, uncounted_withStats, infos_mapTests, List.map_map]
  rfl

theorem isTest_eq_hasResult (fresh : tree.Fresh) {first : Nat}
    (slots : plan.slots = testSlots first tree) {info : NodeInfo}
    (member : info ∈ (judgedTree plan history tree).infos) : info.isTest = info.hasResult := by
  have counted : uncounted info ∈ (judgedTree plan history tree).infos.map uncounted :=
    List.mem_map_of_mem member
  rw [uncounted_judgedTree] at counted
  rcases List.mem_map.mp counted with ⟨original, originalMember, same⟩
  have sameTest := congrArg NodeInfo.isTest same
  have sameResult := congrArg NodeInfo.hasResult same
  change _ = info.isTest at sameTest
  change _ = info.hasResult at sameResult
  rw [← sameTest, ← sameResult, changeIfTest]
  cases kind : original.isTest with
  | false =>
      have unjudged := fresh.unjudged original originalMember
      simpa [uncounted, NodeInfo.isTest, hasResult, unjudged] using kind
  | true =>
      have testMember : original ∈ tree.tests.map Node.info := by
        rw [map_info_tests]
        exact List.mem_filter.mpr ⟨originalMember, kind⟩
      rcases List.mem_map.mp testMember with ⟨test, inTests, rfl⟩
      rcases List.getElem?_of_mem inTests with ⟨index, isTest⟩
      rcases exists_fixture fresh inTests with ⟨fixture, loaded⟩
      rw [if_pos rfl, attachResult_eq fresh slots isTest loaded]
      simpa [uncounted, NodeInfo.isTest, hasResult] using kind

theorem isTest_attachResult (info : NodeInfo) :
    (attachResult plan history info).isTest = info.isTest := by
  rw [attachResult]
  split
  · rw [NodeInfo.attach]
    split <;> rfl
  · rfl

theorem filter_isTest_complete (fresh : tree.Fresh) {first : Nat}
    (slots : plan.slots = testSlots first tree) :
    (complete plan history tree).2.infos.filter NodeInfo.isTest =
      (judgedTree plan history tree).infos.filter NodeInfo.isTest :=
  filter_isTest_prune (counted_withStats _) fun _ member =>
    isTest_eq_hasResult fresh slots member

theorem tests_of_complete (plan : Plan) (history : History TestResult) (fresh : tree.Fresh)
    {first : Nat} (slots : plan.slots = testSlots first tree) :
    (complete plan history tree).2.tests.map (fun test => uncounted test.info) =
      tree.tests.map fun test => uncounted (attachResult plan history test.info) := by
  have pruned : (complete plan history tree).2.tests.map Node.info =
      (judgedTree plan history tree).infos.filter NodeInfo.isTest := by
    rw [map_info_tests, filter_isTest_complete fresh slots]
  have filtered : ((judgedTree plan history tree).infos.filter NodeInfo.isTest).map uncounted =
      ((judgedTree plan history tree).infos.map uncounted).filter NodeInfo.isTest := by
    rw [List.filter_map]
    rfl
  have sameKind : (NodeInfo.isTest ∘ fun info =>
      uncounted (changeIfTest (attachResult plan history) info)) = NodeInfo.isTest := by
    funext info
    change (changeIfTest (attachResult plan history) info).isTest = info.isTest
    rw [changeIfTest]
    split
    · exact isTest_attachResult info
    · rfl
  calc
    (complete plan history tree).2.tests.map (fun test => uncounted test.info)
      = ((complete plan history tree).2.tests.map Node.info).map uncounted := by
        rw [List.map_map]; rfl
    _ = (tree.infos.filter NodeInfo.isTest).map
          fun info => uncounted (changeIfTest (attachResult plan history) info) := by
        rw [pruned, filtered, uncounted_judgedTree, List.filter_map, sameKind]
    _ = (tree.infos.filter NodeInfo.isTest).map
          fun info => uncounted (attachResult plan history info) := by
        apply List.map_congr_left
        intro info member
        rw [changeIfTest, if_pos (List.mem_filter.mp member).2]
    _ = tree.tests.map fun test => uncounted (attachResult plan history test.info) := by
        rw [← map_info_tests, List.map_map]
        rfl

theorem length_tests_of_complete (fresh : tree.Fresh) {first : Nat}
    (slots : plan.slots = testSlots first tree) :
    (complete plan history tree).2.tests.length = tree.tests.length := by
  have counts := congrArg List.length (tests_of_complete plan history fresh slots)
  rwa [List.length_map, List.length_map] at counts

theorem stats_of_complete :
    (complete plan history tree).1.stats = (complete plan history tree).2.info.stats ∧
      (complete plan history tree).1.stats = count (judgedTree plan history tree).infos := by
  constructor
  · rw [complete, info_prune]
  · have root := stats_withStats (tree.mapTests (attachResult plan history))
    rw [← count_withStats] at root
    exact root

theorem total_of_complete (fresh : tree.Fresh) {first : Nat}
    (slots : plan.slots = testSlots first tree) :
    (complete plan history tree).1.stats.total = tree.tests.length := by
  rw [stats_of_complete.2, total_count]
  have same : (judgedTree plan history tree).infos.filter hasResult =
      (judgedTree plan history tree).infos.filter NodeInfo.isTest :=
    (List.filter_congr fun info member => isTest_eq_hasResult fresh slots member).symm
  rw [same, ← filter_isTest_complete fresh slots, ← map_info_tests, List.length_map,
    length_tests_of_complete fresh slots]

/-! ## The group of a run -/

section Plan

variable (registry : Registry) (settings : Settings) (machine : Machine) (tree : Node)

def firstTest : Nat := (buildTasks settings machine tree).length

theorem firstTest_eq :
    firstTest settings machine tree = if (BuildStep.ofTree? tree).isSome then 1 else 0 := by
  rw [firstTest, buildTasks, buildRun?]
  cases BuildStep.ofTree? tree <;> rfl

theorem tasks_plan :
    (Suite.plan registry settings machine tree).group.tasks =
      buildTasks settings machine tree ++
        (testSlots (firstTest settings machine tree) tree).map
          (testTask registry settings (builtMachine machine tree)
            (List.range (firstTest settings machine tree))) := rfl

theorem dependencies_buildTasks :
    ∀ task ∈ buildTasks settings machine tree, task.dependencies = [] := by
  intro task member
  rw [buildTasks, Option.mem_toList, Option.map_eq_some_iff] at member
  rcases member with ⟨build, -, rfl⟩
  rfl

theorem dependsOn_plan {place dependency : Nat} :
    TaskGroup.DependsOn (Suite.plan registry settings machine tree).group.tasks place dependency ↔
      (firstTest settings machine tree ≤ place ∧
        place < (Suite.plan registry settings machine tree).group.size) ∧
      dependency < firstTest settings machine tree := by
  rw [TaskGroup.DependsOn, TaskGroup.dependenciesOf, TaskGroup.size, tasks_plan]
  by_cases isTest : firstTest settings machine tree ≤ place
  · rw [List.getElem?_append_right isTest, List.getElem?_map]
    change _ ∈ ((Option.map _ ((testSlots _ tree)[place - firstTest settings machine tree]?)).map
      Task.dependencies).getD [] ↔ _
    cases found : (testSlots (firstTest settings machine tree) tree)[
        place - firstTest settings machine tree]? with
    | none =>
        have outside := List.getElem?_eq_none_iff.mp found
        simp only [Option.map_none, Option.getD_none, List.not_mem_nil, false_iff,
          List.length_append, List.length_map]
        rw [← firstTest]
        omega
    | some slot =>
        have inside := (List.getElem?_eq_some_iff.mp found).1
        simp only [Option.map_some, Option.getD_some, testTask, List.mem_range,
          List.length_append, List.length_map]
        rw [← firstTest]
        omega
  · have isBuild : place < (buildTasks settings machine tree).length := by
      rw [← firstTest]
      omega
    rw [List.getElem?_append_left isBuild, List.getElem?_eq_getElem isBuild, Option.map_some,
      dependencies_buildTasks settings machine tree _ (List.getElem_mem isBuild)]
    simp only [Option.getD_some, List.not_mem_nil, false_iff]
    omega

theorem sequential_plan :
    TaskGroup.Sequential (Suite.plan registry settings machine tree).group.tasks := by
  intro place _ dependency depends
  have place := (dependsOn_plan registry settings machine tree).mp depends
  exact .inl (by omega)

theorem closed_plan :
    TaskGroup.Closed (Suite.plan registry settings machine tree).group.tasks := by
  intro task member dependency isDependency
  rcases List.getElem?_of_mem member with ⟨place, found⟩
  have depends : TaskGroup.DependsOn (Suite.plan registry settings machine tree).group.tasks place
      dependency := by
    rw [TaskGroup.DependsOn, TaskGroup.dependenciesOf, found]
    exact isDependency
  have places := (dependsOn_plan registry settings machine tree).mp depends
  rw [TaskGroup.size] at places
  omega

end Plan

end Suite

end LiterateTest
