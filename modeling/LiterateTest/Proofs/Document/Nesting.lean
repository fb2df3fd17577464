import LiterateTest.Proofs.Document.Reading
import LiterateTest.Proofs.Tree.Contents

/-! How headings nest: each stands in the nearest heading before it of a smaller level, and the
tests of a segment in the last heading that is no command. A place that grows keeps its contents
when headings are closed, so that the contents of the finished tree are those of its segments. -/

namespace LiterateTest

/-! ## Where a heading stands -/

/-- The number of the heading that a heading stands in, among those before it. -/
inductive StandsIn (earlier : List Heading) (heading : Heading) : Nat → Prop
  /-- The nearest heading of a smaller level. It is still open: the headings since then have
  greater levels than it has. -/
  | below {before between : List Heading} {parent : Heading}
      (split : earlier = before ++ parent :: between)
      (smaller : parent.level < heading.level)
      (nearest : ∀ other ∈ between, heading.level ≤ other.level)
      (isOpen : ∀ other ∈ between, parent.level < other.level) :
      StandsIn earlier heading (before.length + 1)
  | top (none : ∀ other ∈ earlier, heading.level ≤ other.level) : StandsIn earlier heading 0

/-- The headings that are open behind some others, each with its number. Both lists have the last
heading first. -/
def openHeadings : List Heading → List (Nat × Heading)
  | [] => []
  | last :: earlier =>
      (earlier.length + 1, last) ::
        (openHeadings earlier).dropWhile fun numbered => last.level ≤ numbered.2.level

def firstNumber (numbered : List (Nat × Heading)) : Nat := (numbered.head?.map Prod.fst).getD 0

def parentNumber (earlier : List Heading) (heading : Heading) : Nat :=
  firstNumber ((openHeadings earlier).dropWhile fun numbered => heading.level ≤ numbered.2.level)

theorem dropWhile_dropWhile_of_imp {α : Type} {weak strong : α → Bool}
    (implies : ∀ item, strong item = true → weak item = true) (items : List α) :
    (items.dropWhile strong).dropWhile weak = items.dropWhile weak := by
  induction items with
  | nil => rfl
  | cons item items induction =>
      cases holds : strong item with
      | true => rw [List.dropWhile_cons_of_pos holds, induction,
          List.dropWhile_cons_of_pos (implies item holds)]
      | false => rw [List.dropWhile_cons_of_neg (by simp [holds])]

theorem parentNumber_cons_of_le {earlier : List Heading} {last heading : Heading}
    (le : heading.level ≤ last.level) :
    parentNumber (last :: earlier) heading = parentNumber earlier heading := by
  rw [parentNumber, openHeadings, List.dropWhile_cons_of_pos (by simpa using le),
    dropWhile_dropWhile_of_imp, parentNumber]
  intro numbered closed
  simp only [decide_eq_true_eq] at closed ⊢
  omega

theorem standsIn_parentNumber (earlier : List Heading) (heading : Heading) :
    StandsIn earlier.reverse heading (parentNumber earlier heading) := by
  induction earlier with
  | nil => exact .top (by simp)
  | cons last earlier induction =>
      rw [List.reverse_cons]
      rcases Nat.lt_or_ge last.level heading.level with smaller | le
      · have number : parentNumber (last :: earlier) heading = earlier.reverse.length + 1 := by
          rw [parentNumber, openHeadings, List.dropWhile_cons_of_neg (by simpa using smaller),
            List.length_reverse]
          rfl
        rw [number]
        exact .below rfl smaller (by simp) (by simp)
      · rw [parentNumber_cons_of_le le]
        generalize parentNumber earlier heading = number at induction
        cases induction with
        | @below before between parent split smaller nearest isOpen =>
            refine @StandsIn.below _ _ before (between ++ [last]) parent ?_ smaller ?_ ?_
            · rw [split, List.append_assoc, List.cons_append]
            · simpa [or_imp, forall_and] using ⟨nearest, le⟩
            · simpa [or_imp, forall_and] using ⟨isOpen, by omega⟩
        | top none =>
            refine .top ?_
            simpa [or_imp, forall_and] using ⟨by simpa using none, le⟩

/-! ## Entries of segments -/

namespace TreeEntry

def ofHeading (inside : Nat) (heading : Heading) : TreeEntry :=
  ⟨inside, (OpenTree.node heading []).info⟩

def heading (entry : TreeEntry) : Heading := ⟨entry.info.level, entry.info.name⟩

end TreeEntry

def Segment.title? (segment : Segment) : Option Heading :=
  match segment.commandName? with
  | some _ => none
  | none => segment.heading

def Segment.entries : (earlier : List Heading) → List (Segment × List Fixture) → List TreeEntry
  | _, [] => []
  | earlier, (segment, fixtures) :: rest =>
      match segment.title? with
      | some heading =>
          TreeEntry.ofHeading (parentNumber earlier heading) heading
            :: (fixtures.map (TreeEntry.ofTest (earlier.length + 1))
              ++ entries (heading :: earlier) rest)
      | none => fixtures.map (TreeEntry.ofTest earlier.length) ++ entries earlier rest

def headingEntries : (earlier : List Heading) → List Heading → List TreeEntry
  | _, [] => []
  | earlier, heading :: rest =>
      TreeEntry.ofHeading (parentNumber earlier heading) heading
        :: headingEntries (heading :: earlier) rest

theorem map_heading_headingEntries (earlier headings : List Heading) :
    (headingEntries earlier headings).map TreeEntry.heading = headings := by
  induction headings generalizing earlier with
  | nil => rfl
  | cons heading rest induction =>
      rw [headingEntries, List.map_cons, induction]
      rfl

theorem getElem?_headingEntries (earlier before : List Heading) (heading : Heading)
    (after : List Heading) :
    (headingEntries earlier (before ++ heading :: after))[before.length]? =
      some (TreeEntry.ofHeading (parentNumber (before.reverse ++ earlier) heading) heading) := by
  induction before generalizing earlier with
  | nil => rfl
  | cons first before induction =>
      rw [List.cons_append, headingEntries, List.length_cons, List.getElem?_cons_succ, induction,
        List.reverse_cons, List.append_assoc]
      rfl

def testEntries : (before : Nat) → List (Segment × List Fixture) → List TreeEntry
  | _, [] => []
  | before, (segment, fixtures) :: rest =>
      let number := before + segment.title?.toList.length
      fixtures.map (TreeEntry.ofTest number) ++ testEntries number rest

namespace Segment

theorem filter_isHeading_entries (earlier : List Heading) (parts : List (Segment × List Fixture)) :
    (entries earlier parts).filter TreeEntry.isHeading =
      headingEntries earlier (parts.filterMap fun part => part.1.title?) := by
  have noTest (inside : Nat) (fixtures : List Fixture) :
      (fixtures.map (TreeEntry.ofTest inside)).filter TreeEntry.isHeading = [] := by
    rw [List.filter_map]
    simp [TreeEntry.isHeading, TreeEntry.ofTest, Node.ofTest, Node.info, NodeInfo.isHeading,
      Function.comp_def]
  induction parts generalizing earlier with
  | nil => rfl
  | cons part rest induction =>
      rcases part with ⟨segment, fixtures⟩
      rw [entries, List.filterMap_cons]
      cases segment.title? with
      | none => exact (List.filter_append _ _).trans (by rw [noTest, induction, List.nil_append])
      | some heading =>
          have isHeading (inside : Nat) :
              (TreeEntry.ofHeading inside heading).isHeading = true := rfl
          simp only [List.filter_cons_of_pos (isHeading _), List.filter_append, noTest, induction,
            headingEntries, List.nil_append]

theorem filter_isTest_entries (earlier : List Heading) (parts : List (Segment × List Fixture)) :
    (entries earlier parts).filter TreeEntry.isTest = testEntries earlier.length parts := by
  induction parts generalizing earlier with
  | nil => rfl
  | cons part rest induction =>
      rcases part with ⟨segment, fixtures⟩
      rw [entries, testEntries]
      cases segment.title? with
      | none => exact (List.filter_append _ _).trans (by rw [TreeEntry.filter_isTest_tests, induction]; rfl)
      | some heading =>
          have noTest (inside : Nat) : ¬(TreeEntry.ofHeading inside heading).isTest = true := by
            simp [TreeEntry.isTest, TreeEntry.ofHeading, OpenTree.node, Node.ofHeading, Node.info,
              NodeInfo.isTest]
          simp only [List.filter_cons_of_neg (noTest _), List.filter_append,
            TreeEntry.filter_isTest_tests, induction]
          rfl

end Segment

/-! ## Growing trees -/

namespace OpenTree

def contentsOfPath : List (Heading × List Node) → List TreeEntry
  | [] => []
  | (heading, before) :: outer =>
      contentsOfPath outer
        ++ (Node.contentsOf (TreeEntry.headingCount (contentsOfPath outer))
            (TreeEntry.headingCount (contentsOfPath outer)) before.reverse
          ++ [TreeEntry.ofHeading (TreeEntry.headingCount (contentsOfPath outer)) heading])

/-- The number of the innermost open heading. It is the last one in front of what it holds. -/
def innermost (path : List (Heading × List Node)) : Nat :=
  TreeEntry.headingCount (contentsOfPath path)

def contents (tree : OpenTree) : List TreeEntry :=
  contentsOfPath tree.path
    ++ Node.contentsOf (innermost tree.path) (innermost tree.path) tree.here.reverse

def numbered : List (Heading × List Node) → List (Nat × Heading)
  | [] => []
  | (heading, before) :: outer =>
      (innermost ((heading, before) :: outer), heading) :: numbered outer

theorem firstNumber_numbered (path : List (Heading × List Node)) :
    firstNumber (numbered path) = innermost path := by
  cases path <;> rfl

/-! ### Closing -/

theorem contents_closeFrom (ends : Heading → Bool) (here : List Node)
    (path : List (Heading × List Node)) :
    (closeFrom ends here path).contents = contents { here, path } := by
  induction path generalizing here with
  | nil => rfl
  | cons entry outer induction =>
      rcases entry with ⟨heading, before⟩
      rw [closeFrom]
      split
      · rw [induction, contents, contents, List.reverse_cons, Node.contentsOf_append,
          Node.contentsOf_singleton, node, Node.contentsFrom_ofHeading]
        have number : innermost ((heading, before) :: outer) =
            innermost outer + TreeEntry.headingCount
              (Node.contentsOf (innermost outer) (innermost outer) before.reverse) + 1 := by
          rw [innermost, contentsOfPath, TreeEntry.headingCount_append,
            TreeEntry.headingCount_append, Nat.add_assoc]
          rfl
        rw [number, contentsOfPath, List.append_assoc, List.append_assoc]
        rfl
      · rfl

theorem numbered_closeFrom (ends : Heading → Bool) (here : List Node)
    (path : List (Heading × List Node)) :
    numbered (closeFrom ends here path).path =
      (numbered path).dropWhile fun entry => ends entry.2 := by
  induction path generalizing here with
  | nil => rfl
  | cons entry outer induction =>
      rcases entry with ⟨heading, before⟩
      rw [closeFrom, numbered, List.dropWhile_cons]
      split
      · exact induction (node heading here :: before)
      · rfl

theorem path_close_true (tree : OpenTree) : (tree.close fun _ => true).path = [] := by
  rw [close]
  generalize tree.here = here
  induction tree.path generalizing here with
  | nil => rfl
  | cons entry outer induction => exact induction _

theorem contentsOf_finish (tree : OpenTree) : Node.contentsOf 0 0 tree.finish = tree.contents := by
  have closed := contents_closeFrom (fun _ => true) tree.here tree.path
  have done := path_close_true tree
  rw [close] at done
  rw [contents, done] at closed
  exact closed

/-! ### Steps -/

theorem contents_enter (tree : OpenTree) (heading : Heading) :
    (tree.enter heading).contents = tree.contents ++
      [TreeEntry.ofHeading (firstNumber ((numbered tree.path).dropWhile fun entry =>
        heading.level ≤ entry.2.level)) heading] := by
  let outer := tree.close fun other => heading.level ≤ other.level
  have closed : outer.contents = tree.contents := contents_closeFrom _ tree.here tree.path
  have numbers := numbered_closeFrom (fun other => heading.level ≤ other.level) tree.here tree.path
  rw [← numbers, firstNumber_numbered, ← closed, contents, contents, List.append_assoc]
  change contentsOfPath ((heading, outer.here) :: outer.path) ++ [] = _
  rw [List.append_nil]
  rfl

theorem numbered_enter (tree : OpenTree) (heading : Heading) :
    numbered (tree.enter heading).path =
      (TreeEntry.headingCount tree.contents + 1, heading) ::
        (numbered tree.path).dropWhile fun entry => heading.level ≤ entry.2.level := by
  have count := congrArg TreeEntry.headingCount (contents_enter tree heading)
  rw [TreeEntry.headingCount_append] at count
  have whole : (tree.enter heading).contents = contentsOfPath (tree.enter heading).path :=
    List.append_nil _
  rw [whole] at count
  rw [← numbered_closeFrom (fun other => heading.level ≤ other.level) tree.here tree.path]
  exact congrArg (fun number => (number, heading) :: numbered (tree.close _).path) count

theorem path_addTests (tree : OpenTree) (fixtures : List Fixture) :
    ((fixtures.map Node.ofTest).foldl add tree).path = tree.path := by
  induction fixtures generalizing tree with
  | nil => rfl
  | cons fixture rest induction => exact induction (tree.add (.ofTest fixture))

theorem contents_addTests (tree : OpenTree) (fixtures : List Fixture) :
    ((fixtures.map Node.ofTest).foldl add tree).contents =
      tree.contents ++ fixtures.map (TreeEntry.ofTest (innermost tree.path)) := by
  induction fixtures generalizing tree with
  | nil => exact (List.append_nil _).symm
  | cons fixture rest induction =>
      have step : (tree.add (.ofTest fixture)).contents =
          tree.contents ++ [TreeEntry.ofTest (innermost tree.path) fixture] := by
        rw [contents, add, List.reverse_cons, Node.contentsOf_append, Node.contentsOf_singleton,
          Node.contentsFrom_ofTest, ← List.append_assoc]
        rfl
      have tests := induction (tree.add (.ofTest fixture))
      rw [step, List.append_assoc] at tests
      exact tests

theorem addSegment_eq (tree : OpenTree) (segment : Segment) (fixtures : List Fixture) :
    tree.addSegment segment fixtures =
      (fixtures.map Node.ofTest).foldl add
        (match segment.title? with
          | some heading => tree.enter heading
          | none => tree) := by
  rw [addSegment, Segment.title?]
  cases segment.commandName? <;> cases segment.heading <;> rfl

/-! ### Runs -/

structure Follows (tree : OpenTree) (earlier : List Heading) : Prop where
  count : TreeEntry.headingCount tree.contents = earlier.length
  numbers : numbered tree.path = openHeadings earlier

namespace Follows

variable {tree : OpenTree} {earlier : List Heading}

theorem start : Follows {} [] := ⟨rfl, rfl⟩

theorem innermost_eq (follows : Follows tree earlier) : innermost tree.path = earlier.length := by
  rw [← firstNumber_numbered, follows.numbers]
  cases earlier <;> rfl

theorem enter (follows : Follows tree earlier) (heading : Heading) :
    Follows (tree.enter heading) (heading :: earlier) := by
  constructor
  case count =>
    rw [contents_enter, TreeEntry.headingCount_append, follows.count]
    rfl
  case numbers => rw [numbered_enter, follows.numbers, follows.count, openHeadings]

theorem addTests (follows : Follows tree earlier) (fixtures : List Fixture) :
    Follows ((fixtures.map Node.ofTest).foldl add tree) earlier := by
  constructor
  case count =>
    rw [contents_addTests, TreeEntry.headingCount_append, follows.count,
      TreeEntry.headingCount_tests, Nat.add_zero]
  case numbers => rw [path_addTests, follows.numbers]

theorem contents_addSegments (follows : Follows tree earlier)
    (parts : List (Segment × List Fixture)) :
    (parts.foldl (fun tree (segment, tests) => tree.addSegment segment tests) tree).contents =
      tree.contents ++ Segment.entries earlier parts := by
  induction parts generalizing tree earlier with
  | nil => exact (List.append_nil _).symm
  | cons part rest induction =>
      rcases part with ⟨segment, fixtures⟩
      rw [List.foldl_cons]
      change (rest.foldl _ (tree.addSegment segment fixtures)).contents = _
      rw [addSegment_eq, Segment.entries]
      cases segment.title? with
      | none =>
          rw [induction (follows.addTests fixtures), contents_addTests, follows.innermost_eq,
            List.append_assoc]
      | some heading =>
          have entered := follows.enter heading
          rw [induction (entered.addTests fixtures), contents_addTests, entered.innermost_eq,
            contents_enter, follows.numbers, List.append_assoc, List.append_assoc]
          rfl

end Follows

/-! ### Levels -/

def level? (path : List (Heading × List Node)) : Option Nat :=
  path.head?.map fun entry => entry.1.level

def PathRises : List (Heading × List Node) → Prop
  | [] => True
  | (heading, before) :: outer =>
      (∀ level ∈ level? outer, level < heading.level) ∧
        (∀ child ∈ before, child.Rises (level? outer)) ∧ PathRises outer

structure Rises (tree : OpenTree) : Prop where
  path : PathRises tree.path
  here : ∀ child ∈ tree.here, child.Rises (level? tree.path)

theorem rises_closeFrom {ends : Heading → Bool} {here : List Node}
    {path : List (Heading × List Node)} (rises : Rises { here, path }) :
    Rises (closeFrom ends here path) := by
  induction path generalizing here with
  | nil => exact rises
  | cons entry outer induction =>
      rcases entry with ⟨heading, before⟩
      rcases rises with ⟨⟨greater, beside, around⟩, inside⟩
      rw [closeFrom]
      split
      · apply induction
        refine ⟨around, ?_⟩
        intro child member
        rcases List.mem_cons.mp member with rfl | member
        · exact Node.rises_ofHeading greater fun child member =>
            inside child (List.mem_reverse.mp member)
        · exact beside child member
      · exact ⟨⟨greater, beside, around⟩, inside⟩

theorem ends_of_mem_head?_closeFrom {ends : Heading → Bool} {here : List Node}
    {path : List (Heading × List Node)} :
    ∀ entry ∈ (closeFrom ends here path).path.head?, ends entry.1 = false := by
  induction path generalizing here with
  | nil => simp [closeFrom]
  | cons entry outer induction =>
      rcases entry with ⟨heading, before⟩
      rw [closeFrom]
      split
      · exact induction
      · next isOpen => simpa using isOpen

theorem Rises.enter {tree : OpenTree} (rises : Rises tree) (heading : Heading) :
    Rises (tree.enter heading) := by
  have closed : Rises (tree.close fun other => heading.level ≤ other.level) :=
    rises_closeFrom rises
  refine ⟨⟨?_, closed.here, closed.path⟩, by simp [OpenTree.enter]⟩
  intro level member
  rcases Option.map_eq_some_iff.mp member with ⟨entry, isInnermost, rfl⟩
  simpa using ends_of_mem_head?_closeFrom entry isInnermost

theorem Rises.addTests {tree : OpenTree} (rises : Rises tree) (fixtures : List Fixture) :
    Rises ((fixtures.map Node.ofTest).foldl add tree) := by
  induction fixtures generalizing tree with
  | nil => exact rises
  | cons fixture rest induction =>
      apply induction
      refine ⟨rises.path, ?_⟩
      intro child member
      rcases List.mem_cons.mp member with rfl | member
      · exact Node.rises_ofTest _ fixture
      · exact rises.here child member

theorem Rises.addSegments {tree : OpenTree} (rises : Rises tree)
    (parts : List (Segment × List Fixture)) :
    Rises (parts.foldl (fun tree (segment, tests) => tree.addSegment segment tests) tree) := by
  induction parts generalizing tree with
  | nil => exact rises
  | cons part rest induction =>
      rcases part with ⟨segment, fixtures⟩
      apply induction
      change Rises (tree.addSegment segment fixtures)
      rw [addSegment_eq]
      cases segment.title? with
      | none => exact rises.addTests fixtures
      | some heading => exact (rises.enter heading).addTests fixtures

theorem Rises.finish {tree : OpenTree} (rises : Rises tree) :
    ∀ child ∈ tree.finish, child.Rises none := by
  have closed : Rises (tree.close fun _ => true) := rises_closeFrom rises
  intro child member
  have below := closed.here child (List.mem_reverse.mp member)
  rwa [path_close_true] at below

end OpenTree

/-! ## Documents -/

theorem Document.contents_of_ofBlocks {name : String} {blocks : List Block}
    {frontMatter : FrontMatter} {sourceDir : String} {root : Node}
    (read : ofBlocks name blocks frontMatter sourceDir = .ok root) :
    ∃ parts, segments blocks frontMatter sourceDir = .ok parts ∧
      root.contents = ⟨0, (Node.ofFile name []).info⟩ :: Segment.entries [] parts ∧
      root.Rises none := by
  rw [ofBlocks_eq] at read
  cases found : segments blocks frontMatter sourceDir with
  | error fault =>
      rw [found] at read
      cases read
  | ok parts =>
      rw [found] at read
      cases read
      refine ⟨parts, rfl, ?_, ?_⟩
      · rw [Node.contents_ofFile, OpenTree.contentsOf_finish,
          OpenTree.Follows.start.contents_addSegments]
        rfl
      · have start : OpenTree.Rises {} := ⟨trivial, by simp⟩
        exact Node.rises_ofFile (start.addSegments parts).finish

theorem Document.filter_contents_of_ofBlocks {name : String} {blocks : List Block}
    {frontMatter : FrontMatter} {sourceDir : String} {root : Node}
    (read : ofBlocks name blocks frontMatter sourceDir = .ok root) :
    ∃ parts, segments blocks frontMatter sourceDir = .ok parts ∧
      root.contents.filter TreeEntry.isHeading =
        headingEntries [] (parts.filterMap fun part => part.1.title?) ∧
      root.contents.filter TreeEntry.isTest = testEntries 0 parts ∧ root.Rises none := by
  rcases contents_of_ofBlocks read with ⟨parts, found, contents, rises⟩
  refine ⟨parts, found, ?_, ?_, rises⟩
  · have noHeading : ¬TreeEntry.isHeading ⟨0, (Node.ofFile name []).info⟩ = true := by
      simp [TreeEntry.isHeading, Node.ofFile, Node.info, NodeInfo.isHeading]
    rw [contents, List.filter_cons_of_neg noHeading, Segment.filter_isHeading_entries]
  · have noTest : ¬TreeEntry.isTest ⟨0, (Node.ofFile name []).info⟩ = true := by
      simp [TreeEntry.isTest, Node.ofFile, Node.info, NodeInfo.isTest]
    rw [contents, List.filter_cons_of_neg noTest, Segment.filter_isTest_entries]
    rfl

end LiterateTest
