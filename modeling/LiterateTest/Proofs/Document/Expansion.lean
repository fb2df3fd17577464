import LiterateTest.Document.Expansion
import LiterateTest.Proofs.Each
import LiterateTest.Proofs.Tree.Contents

/-! The expansion of a tree over files. It puts the copies of each test where the test stood, so that
they are those of the tests as a list, and leaves all other nodes as they are. -/

namespace LiterateTest

/-! ## Trees without tests -/

namespace Node

mutual
def withoutTests : Node → Node
  | node info children => node info (withoutTestsOf children)

def withoutTestsOf : List Node → List Node
  | [] => []
  | child :: rest =>
      if child.isTest then withoutTestsOf rest else child.withoutTests :: withoutTestsOf rest
end

theorem withoutTestsOf_cons_of_test {info : NodeInfo} (isTest : info.isTest = true)
    (children rest : List Node) :
    withoutTestsOf (node info children :: rest) = withoutTestsOf rest := by
  rw [withoutTestsOf]
  exact if_pos isTest

theorem withoutTestsOf_cons_of_other {info : NodeInfo} (noTest : info.isTest = false)
    (children rest : List Node) :
    withoutTestsOf (node info children :: rest) =
      node info (withoutTestsOf children) :: withoutTestsOf rest := by
  rw [withoutTestsOf, withoutTests]
  exact if_neg (Bool.eq_false_iff.mp noTest)

theorem withoutTestsOf_append (left right : List Node) :
    withoutTestsOf (left ++ right) = withoutTestsOf left ++ withoutTestsOf right := by
  induction left with
  | nil => rfl
  | cons child rest induction =>
      rw [List.cons_append, withoutTestsOf, withoutTestsOf, induction]
      split <;> rfl

theorem withoutTestsOf_map_ofTest (fixtures : List Fixture) :
    withoutTestsOf (fixtures.map ofTest) = [] := by
  induction fixtures with
  | nil => rfl
  | cons fixture rest induction =>
      rw [List.map_cons, ofTest, withoutTestsOf_cons_of_test rfl, induction]

/-! ## Nodes -/

def HoldsTest (found : Node) : Prop :=
  found.isTest = true → found.info.test.isSome = true ∧ found.children = []

theorem expandNode_of_test (files : List (Record String)) {info : NodeInfo} {fixture : Fixture}
    (isTest : info.isTest = true) (holds : info.test = some fixture) (children : List Node) :
    expandNode files (node info children) = (files.map fixture.withFile).map ofTest := by
  have kind : info.kind = .test := by simpa [NodeInfo.isTest] using isTest
  rw [expandNode, kind, holds]

theorem expandNode_of_other (files : List (Record String)) {info : NodeInfo}
    (noTest : info.isTest = false) (children : List Node) :
    expandNode files (node info children) = [node info (expandNodes files children)] := by
  rw [expandNode]
  split
  · next kind _ => simp [NodeInfo.isTest, kind] at noTest
  · rfl

theorem HoldsTest.exists_fixture {info : NodeInfo} {children : List Node}
    (holds : (node info children).HoldsTest) (isTest : info.isTest = true) :
    ∃ fixture, info.test = some fixture ∧ children = [] := by
  rcases holds isTest with ⟨isSome, leaf⟩
  exact ⟨_, (Option.some_get isSome).symm, leaf⟩

/-! ## Headings -/

mutual
theorem withoutTestsOf_expandNode (files : List (Record String)) : ∀ tree : Node,
    (∀ found ∈ tree.all, found.HoldsTest) →
      withoutTestsOf (expandNode files tree) = withoutTestsOf [tree]
  | node info children, holds => by
      cases isTest : info.isTest with
      | true =>
          rcases (holds _ List.mem_cons_self).exists_fixture isTest with ⟨fixture, isFixture, -⟩
          rw [expandNode_of_test files isTest isFixture, withoutTestsOf_map_ofTest,
            withoutTestsOf_cons_of_test isTest, withoutTestsOf]
      | false =>
          have below := withoutTestsOf_expandNodes files children
            fun found member => holds found (List.mem_cons_of_mem _ member)
          rw [expandNode_of_other files isTest, withoutTestsOf_cons_of_other isTest,
            withoutTestsOf_cons_of_other isTest, below]

theorem withoutTestsOf_expandNodes (files : List (Record String)) : ∀ trees : List Node,
    (∀ found ∈ allOf trees, found.HoldsTest) →
      withoutTestsOf (expandNodes files trees) = withoutTestsOf trees
  | [], _ => rfl
  | child :: rest, holds => by
      have own := withoutTestsOf_expandNode files child
        fun found member => holds found (List.mem_append_left _ member)
      have others := withoutTestsOf_expandNodes files rest
        fun found member => holds found (List.mem_append_right _ member)
      rw [expandNodes, withoutTestsOf_append, own, others, ← withoutTestsOf_append]
      rfl
end

end Node

/-! ## Entries -/

namespace TreeEntry

/-- The entries of a test's copies, which stand where the test does. Other entries stay. -/
def replaceTest (copiesOf : Fixture → List Fixture) (entry : TreeEntry) : List TreeEntry :=
  match entry.info.kind, entry.info.test with
  | .test, some fixture => (copiesOf fixture).map (ofTest entry.inside)
  | _, _ => [entry]

variable (copiesOf : Fixture → List Fixture)

theorem replaceTest_of_test {info : NodeInfo} {fixture : Fixture} (isTest : info.isTest = true)
    (holds : info.test = some fixture) (inside : Nat) :
    replaceTest copiesOf ⟨inside, info⟩ = (copiesOf fixture).map (ofTest inside) := by
  have kind : info.kind = .test := by simpa [NodeInfo.isTest] using isTest
  rw [replaceTest, kind, holds]

theorem replaceTest_of_other {entry : TreeEntry} (noTest : entry.isTest = false) :
    replaceTest copiesOf entry = [entry] := by
  rw [replaceTest]
  split
  · next kind _ => simp [isTest, NodeInfo.isTest, kind] at noTest
  · rfl

theorem isHeading_of_isTest {entry : TreeEntry} (isTest : entry.isTest = true) :
    entry.isHeading = false := by
  have kind : entry.info.kind = .test := by simpa [TreeEntry.isTest, NodeInfo.isTest] using isTest
  rw [isHeading, NodeInfo.isHeading, kind]
  rfl

theorem headingCount_replaceTest {entries : List TreeEntry}
    (hold : ∀ entry ∈ entries, entry.isTest = true → entry.info.test.isSome = true) :
    headingCount (entries.flatMap (replaceTest copiesOf)) = headingCount entries := by
  induction entries with
  | nil => rfl
  | cons entry rest induction =>
      have others := induction fun other member => hold other (List.mem_cons_of_mem entry member)
      have own : headingCount (replaceTest copiesOf entry) = headingCount [entry] := by
        cases isTest : entry.isTest with
        | false => rw [replaceTest_of_other copiesOf isTest]
        | true =>
            rcases Option.isSome_iff_exists.mp (hold entry List.mem_cons_self isTest) with
              ⟨fixture, isFixture⟩
            have noHeading : ∀ other ∈ [entry], other.isHeading = false := by
              intro other member
              cases List.mem_singleton.mp member
              exact isHeading_of_isTest isTest
            rw [headingCount_of_none noHeading, replaceTest_of_test copiesOf isTest isFixture,
              headingCount_tests]
      rw [List.flatMap_cons, headingCount_append, own, others, ← headingCount_append]
      rfl

def payloads (entries : List TreeEntry) : List (Option Fixture) :=
  (entries.filter isTest).map fun entry => entry.info.test

theorem payloads_append (left right : List TreeEntry) :
    payloads (left ++ right) = payloads left ++ payloads right := by
  rw [payloads, List.filter_append, List.map_append]
  rfl

theorem payloads_tests (inside : Nat) (fixtures : List Fixture) :
    payloads (fixtures.map (ofTest inside)) = fixtures.map some := by
  rw [payloads, filter_isTest_tests, List.map_map]
  rfl

theorem payloads_replaceTest {entries : List TreeEntry} {fixtures : List Fixture}
    (carried : payloads entries = fixtures.map some) :
    payloads (entries.flatMap (replaceTest copiesOf)) = (fixtures.flatMap copiesOf).map some := by
  induction entries generalizing fixtures with
  | nil =>
      rw [List.map_eq_nil_iff.mp carried.symm]
      rfl
  | cons entry rest induction =>
      rw [List.flatMap_cons, payloads_append]
      cases isTest : entry.isTest with
      | false =>
          have own : payloads [entry] = [] := by simp [payloads, isTest]
          have others := payloads_append [entry] rest
          rw [own, List.nil_append] at others
          rw [replaceTest_of_other copiesOf isTest, own, List.nil_append,
            induction (others.symm.trans carried)]
      | true =>
          rw [payloads, List.filter_cons_of_pos isTest] at carried
          rcases List.map_eq_cons_iff.mp carried.symm with ⟨fixture, others, rfl, isFixture, same⟩
          rw [replaceTest_of_test copiesOf isTest isFixture.symm, payloads_tests,
            induction same.symm, List.flatMap_cons, List.map_append]

end TreeEntry

namespace Node

theorem contentsOf_map_ofTest (inside before : Nat) (fixtures : List Fixture) :
    contentsOf inside before (fixtures.map ofTest) = fixtures.map (TreeEntry.ofTest inside) := by
  induction fixtures generalizing before with
  | nil => rfl
  | cons fixture rest induction =>
      rw [List.map_cons, contentsOf, induction, contentsFrom_ofTest]
      rfl

theorem holds_of_mem_contentsFrom {tree : Node} (hold : ∀ found ∈ tree.all, found.HoldsTest)
    {inside before : Nat} {entry : TreeEntry} (member : entry ∈ tree.contentsFrom inside before)
    (isTest : entry.isTest = true) : entry.info.test.isSome = true := by
  have info := List.mem_map_of_mem (f := TreeEntry.info) member
  rw [map_info_contentsFrom] at info
  rcases List.mem_map.mp info with ⟨found, isFound, same⟩
  rw [TreeEntry.isTest, ← same] at isTest
  rw [← same]
  exact (hold found isFound isTest).1

mutual
theorem contentsOf_expandNode (files : List (Record String)) :
    ∀ (inside before : Nat) (tree : Node), (∀ found ∈ tree.all, found.HoldsTest) →
      contentsOf inside before (expandNode files tree) =
        (tree.contentsFrom inside before).flatMap
          (TreeEntry.replaceTest fun fixture => files.map fixture.withFile)
  | inside, before, node info children, hold => by
      cases isTest : info.isTest with
      | true =>
          rcases (hold _ List.mem_cons_self).exists_fixture isTest with ⟨fixture, isFixture, rfl⟩
          have entry : (node info []).contentsFrom inside before = [⟨inside, info⟩] := by
            rw [contentsFrom]
            split <;> rfl
          rw [expandNode_of_test files isTest isFixture, contentsOf_map_ofTest, entry,
            List.flatMap_singleton, TreeEntry.replaceTest_of_test _ isTest isFixture]
      | false =>
          have below (inside before : Nat) :=
            contentsOf_expandNodes files inside before children
              fun found member => hold found (List.mem_cons_of_mem _ member)
          have own (copiesOf : Fixture → List Fixture) :
              TreeEntry.replaceTest copiesOf ⟨inside, info⟩ = [⟨inside, info⟩] :=
            TreeEntry.replaceTest_of_other copiesOf isTest
          rw [expandNode_of_other files isTest, contentsOf_singleton, contentsFrom, contentsFrom]
          split <;> rw [List.flatMap_cons, own, below, List.singleton_append]

theorem contentsOf_expandNodes (files : List (Record String)) :
    ∀ (inside before : Nat) (trees : List Node), (∀ found ∈ allOf trees, found.HoldsTest) →
      contentsOf inside before (expandNodes files trees) =
        (contentsOf inside before trees).flatMap
          (TreeEntry.replaceTest fun fixture => files.map fixture.withFile)
  | _, _, [], _ => rfl
  | inside, before, child :: rest, hold => by
      have holdOwn : ∀ found ∈ child.all, found.HoldsTest :=
        fun found member => hold found (List.mem_append_left _ member)
      have own := contentsOf_expandNode files inside before child holdOwn
      have others (before : Nat) := contentsOf_expandNodes files inside before rest
        fun found member => hold found (List.mem_append_right _ member)
      have count := TreeEntry.headingCount_replaceTest (fun fixture => files.map fixture.withFile)
        fun entry (member : entry ∈ child.contentsFrom inside before) =>
          holds_of_mem_contentsFrom holdOwn member
      rw [expandNodes, contentsOf_append, own, others, count, contentsOf, List.flatMap_append]
end

/-! ## Trees -/

variable {root : Node} {files : List (Record String)} {fixtures : List Fixture}

theorem holdsTest_of_mem_all (carried : root.payloads = fixtures.map some)
    (leaves : ∀ test ∈ root.tests, test.children = []) : ∀ found ∈ root.all, found.HoldsTest := by
  intro found member isTest
  have test : found ∈ root.tests := List.mem_filter.mpr ⟨member, isTest⟩
  have payload : found.info.test ∈ root.payloads :=
    List.mem_map_of_mem (f := fun test => test.info.test) test
  rw [carried] at payload
  rcases List.mem_map.mp payload with ⟨fixture, -, same⟩
  exact ⟨by rw [← same]; rfl, leaves found test⟩

theorem contents_expand (noTest : root.isTest = false) (matched : files ≠ [])
    (hold : ∀ found ∈ root.all, found.HoldsTest) :
    (root.expand files).contents =
      root.contents.flatMap (TreeEntry.replaceTest (Fixture.expand files)) := by
  have copies : Fixture.expand files = fun fixture => files.map fixture.withFile := by
    funext fixture
    rw [Fixture.expand, if_neg (by simpa using matched)]
  rcases root with ⟨info, children⟩
  have noOwnTest : info.isTest = false := noTest
  have expanded := contentsOf_expandNode files 0 0 (node info children) hold
  rw [expandNode_of_other files noOwnTest, contentsOf_singleton] at expanded
  rw [expand, if_neg (by simpa using matched), copies]
  exact expanded

theorem withoutTests_expand (hold : ∀ found ∈ root.all, found.HoldsTest) :
    (root.expand files).withoutTests = root.withoutTests := by
  rcases root with ⟨info, children⟩
  rw [expand]
  split
  · rfl
  · rw [withoutTests, withoutTests]
    exact congrArg (node info) <| withoutTestsOf_expandNodes files children
      fun found member => hold found (List.mem_cons_of_mem _ member)

theorem payloads_expand (noTest : root.isTest = false)
    (hold : ∀ found ∈ root.all, found.HoldsTest) (carried : root.payloads = fixtures.map some) :
    (root.expand files).payloads = (fixtures.flatMap (Fixture.expand files)).map some := by
  by_cases none : files = []
  · subst none
    have same : Fixture.expand [] = fun fixture => [fixture] := rfl
    rw [same, List.flatMap_singleton', ← carried]
    rfl
  · rw [payloads_eq] at carried ⊢
    rw [contents_expand noTest none hold]
    exact TreeEntry.payloads_replaceTest _ carried

end Node

/-! ## Copies -/

/-- Whether nothing of a copy is its own but the name and the template variables. -/
def Fixture.IsCopy (fixture copy : Fixture) : Prop :=
  copy = { fixture with name := copy.name, templateVars := copy.templateVars }

theorem Fixture.isCopy_of_mem_expand {files : List (Record String)} {fixture copy : Fixture}
    (member : copy ∈ fixture.expand files) : fixture.IsCopy copy := by
  rw [expand] at member
  split at member
  · cases List.mem_singleton.mp member
    rfl
  · rcases List.mem_map.mp member with ⟨vars, -, rfl⟩
    rfl

theorem Fixture.length_expand {files : List (Record String)} (matched : files ≠ [])
    (fixture : Fixture) : (fixture.expand files).length = files.length := by
  rw [expand, if_neg (by simpa using matched), List.length_map]

theorem length_of_expansionFiles {tree : FileTree} {frontMatter : FrontMatter}
    {directory : String} {files : List (Record String)} {paths : List String}
    (found : expansionFiles tree frontMatter directory = .ok files)
    (isPattern : Text.trim frontMatter.files ≠ "")
    (matched : matchedFiles tree (Text.trim frontMatter.files) directory = .ok paths) :
    files.length = paths.length := by
  rw [expansionFiles, if_neg isPattern, matched] at found
  exact (mapM_eq_ok_iff.mp found).length_eq.symm

/-- A tree and the list of its tests are expanded alike. Either fails where the other does, with the
same fault. If neither fails, the tests of the tree are those of the list, and the nodes that are no
tests stay as they are. Where files are matched, each test has one copy for each of them in its
place. -/
theorem expandTree_agrees (tree : FileTree) (frontMatter : FrontMatter) (directory : String)
    {root : Node} {fixtures : List Fixture} (noTest : root.isTest = false)
    (carried : root.payloads = fixtures.map some)
    (leaves : ∀ test ∈ root.tests, test.children = []) :
    (∃ fault, expandTree tree frontMatter directory root = .error fault ∧
      expandFixtures tree frontMatter directory fixtures = .error fault) ∨
    ∃ expanded copies, expandTree tree frontMatter directory root = .ok expanded ∧
      expandFixtures tree frontMatter directory fixtures = .ok copies ∧
      expanded.payloads = copies.map some ∧
      expanded.withoutTests = root.withoutTests ∧
      ∀ paths, Text.trim frontMatter.files ≠ "" →
        matchedFiles tree (Text.trim frontMatter.files) directory = .ok paths → paths ≠ [] →
          ∃ copiesOf : Fixture → List Fixture,
            copies = fixtures.flatMap copiesOf ∧
            expanded.contents = root.contents.flatMap (TreeEntry.replaceTest copiesOf) ∧
            ∀ fixture, (copiesOf fixture).length = paths.length ∧
              ∀ copy ∈ copiesOf fixture, fixture.IsCopy copy := by
  have hold := Node.holdsTest_of_mem_all carried leaves
  cases found : expansionFiles tree frontMatter directory with
  | error fault =>
      left
      refine ⟨fault, ?_, ?_⟩
      · rw [expandTree, found]
        rfl
      · rw [expandFixtures, found]
        rfl
  | ok files =>
      right
      refine ⟨root.expand files, fixtures.flatMap (Fixture.expand files), ?_, ?_,
        Node.payloads_expand noTest hold carried, Node.withoutTests_expand hold, ?_⟩
      · rw [expandTree, found]
        rfl
      · rw [expandFixtures, found]
        rfl
      · intro paths isPattern matched nonempty
        have count := length_of_expansionFiles found isPattern matched
        have isMatched : files ≠ [] := by
          rintro rfl
          exact nonempty (List.length_eq_zero_iff.mp count.symm)
        refine ⟨Fixture.expand files, rfl, Node.contents_expand noTest isMatched hold, ?_⟩
        intro fixture
        rw [Fixture.length_expand isMatched, count]
        exact ⟨rfl, fun copy member => Fixture.isCopy_of_mem_expand member⟩

theorem expandTree_agrees_of_two_files :
    let tree : FileTree :=
      { top := .directory [("docs", .directory [("data",
          .directory [("a.json", .file []), ("b.json", .file []), ("c.txt", .file [])])])] }
    let frontMatter : FrontMatter := { files := "data/*.json" }
    let first : Fixture := { name := "first" }
    let second : Fixture := { name := "second" }
    let root : Node := .ofFile "doc.md" [.ofHeading 1 "Checks" [.ofTest first], .ofTest second]
    root.isTest = false ∧ root.payloads = [first, second].map some ∧
      (∀ test ∈ root.tests, test.children = []) ∧
      ∃ expanded copies, expandTree tree frontMatter "/docs" root = .ok expanded ∧
        expandFixtures tree frontMatter "/docs" [first, second] = .ok copies ∧
        expanded.payloads = copies.map some ∧
        expanded.withoutTests = root.withoutTests ∧
        copies.map Fixture.name = ["first [data/a.json]", "first [data/b.json]",
          "second [data/a.json]", "second [data/b.json]"] ∧
        ∃ copiesOf : Fixture → List Fixture,
          copies = [first, second].flatMap copiesOf ∧
          expanded.contents = root.contents.flatMap (TreeEntry.replaceTest copiesOf) ∧
          ∀ fixture, (copiesOf fixture).length = 2 ∧
            ∀ copy ∈ copiesOf fixture, fixture.IsCopy copy := by
  intro tree frontMatter first second root
  let paths := ["/docs/data/a.json", "/docs/data/b.json"]
  have sorted : Path.sort paths = paths := by
    apply List.mergeSort_of_pairwise
    decide +kernel
  have isGlob : ∃ glob, Glob.ofString (Path.join "/docs" "data/*.json") = .ok glob ∧
      (glob.paths tree).filter tree.isFile = paths := by
    refine ⟨_, rfl, ?_⟩
    decide +kernel
  have matched : matchedFiles tree (Text.trim frontMatter.files) "/docs" = .ok paths := by
    have pattern : Text.trim frontMatter.files = "data/*.json" := by decide
    rcases isGlob with ⟨glob, isGlob, found⟩
    rw [matchedFiles, pattern, isGlob]
    dsimp only
    rw [found, sorted]
  have isPattern : Text.trim frontMatter.files ≠ "" := by decide
  have leaves : ∀ test ∈ root.tests, test.children = [] := by
    intro test member
    change test ∈ [Node.ofTest first, Node.ofTest second] at member
    rcases List.mem_cons.mp member with rfl | member
    · rfl
    · cases List.mem_singleton.mp member
      rfl
  have files : ∃ a b, expansionFiles tree frontMatter "/docs" = .ok [a, b] ∧
      Record.get? "file" a = some "data/a.json" ∧ Record.get? "file" b = some "data/b.json" := by
    rw [expansionFiles, if_neg isPattern, matched]
    refine ⟨_, _, rfl, ?_, ?_⟩ <;> decide +kernel
  rcases files with ⟨a, b, found, isA, isB⟩
  have expanded : expandFixtures tree frontMatter "/docs" [first, second] =
      .ok [first.withFile a, first.withFile b, second.withFile a, second.withFile b] := by
    rw [expandFixtures, found]
    rfl
  have carried : root.payloads = [first, second].map some := rfl
  refine ⟨rfl, carried, leaves, ?_⟩
  rcases expandTree_agrees tree frontMatter "/docs" rfl carried leaves with
    ⟨fault, -, failed⟩ | ⟨grown, copies, isGrown, isCopies, payloads, headings, groups⟩
  · rw [expanded] at failed
    cases failed
  · refine ⟨grown, copies, isGrown, isCopies, payloads, headings, ?_,
      groups paths isPattern matched (List.cons_ne_nil _ _)⟩
    rw [expanded] at isCopies
    cases isCopies
    simp [Fixture.withFile, isA, isB, first, second]

end LiterateTest
