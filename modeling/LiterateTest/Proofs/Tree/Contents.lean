import LiterateTest.Proofs.Tree.Node

/-! The contents of a tree: its nodes in document order, each with the heading that it stands in.
Headings go by number, so that those of one text and level are told apart. -/

namespace LiterateTest

/-! ## Entries -/

def NodeInfo.isHeading (info : NodeInfo) : Bool := info.kind == .heading

structure TreeEntry where
  /-- The number of the heading that the node stands in. The headings of a tree are numbered from 1
  on; 0 stands for the root. -/
  inside : Nat
  info : NodeInfo
  deriving DecidableEq, Repr

namespace TreeEntry

def isHeading (entry : TreeEntry) : Bool := entry.info.isHeading

def isTest (entry : TreeEntry) : Bool := entry.info.isTest

def ofTest (inside : Nat) (fixture : Fixture) : TreeEntry := ⟨inside, (Node.ofTest fixture).info⟩

def headingCount (entries : List TreeEntry) : Nat := entries.countP isHeading

@[simp] theorem headingCount_append (left right : List TreeEntry) :
    headingCount (left ++ right) = headingCount left + headingCount right :=
  List.countP_append

theorem headingCount_of_none {entries : List TreeEntry}
    (none : ∀ entry ∈ entries, entry.isHeading = false) : headingCount entries = 0 := by
  rw [headingCount, List.countP_eq_zero]
  intro entry member
  simp [none entry member]

@[simp] theorem headingCount_tests (inside : Nat) (fixtures : List Fixture) :
    headingCount (fixtures.map (ofTest inside)) = 0 := by
  apply headingCount_of_none
  intro entry member
  rcases List.mem_map.mp member with ⟨fixture, -, rfl⟩
  rfl

theorem filter_isTest_tests (inside : Nat) (fixtures : List Fixture) :
    (fixtures.map (ofTest inside)).filter isTest = fixtures.map (ofTest inside) := by
  rw [List.filter_eq_self]
  intro entry member
  rcases List.mem_map.mp member with ⟨fixture, -, rfl⟩
  rfl

end TreeEntry

namespace Node

mutual
/-- The entries of a node and of those below it, behind `before` headings. -/
def contentsFrom (inside before : Nat) : Node → List TreeEntry
  | node info children =>
      if info.isHeading then ⟨inside, info⟩ :: contentsOf (before + 1) (before + 1) children
      else ⟨inside, info⟩ :: contentsOf inside before children

def contentsOf (inside before : Nat) : List Node → List TreeEntry
  | [] => []
  | child :: rest =>
      child.contentsFrom inside before
        ++ contentsOf inside
            (before + TreeEntry.headingCount (child.contentsFrom inside before)) rest
end

def contents (tree : Node) : List TreeEntry := tree.contentsFrom 0 0

example :
    (contents (.ofFile "a.md"
      [.ofHeading 1 "One" [.ofHeading 2 "Two" []], .ofHeading 1 "One" []])).map
        (fun entry => (entry.inside, entry.info.name)) =
        [(0, "a.md"), (0, "One"), (1, "Two"), (0, "One")] := rfl

theorem contentsOf_append (inside before : Nat) (left right : List Node) :
    contentsOf inside before (left ++ right) =
      contentsOf inside before left
        ++ contentsOf inside
            (before + TreeEntry.headingCount (contentsOf inside before left)) right := by
  induction left generalizing before with
  | nil => rfl
  | cons child rest induction =>
      rw [List.cons_append, contentsOf, contentsOf, induction, TreeEntry.headingCount_append,
        List.append_assoc, Nat.add_assoc]

@[simp] theorem contentsOf_singleton (inside before : Nat) (child : Node) :
    contentsOf inside before [child] = child.contentsFrom inside before := by
  rw [contentsOf, contentsOf, List.append_nil]

theorem contentsFrom_ofHeading (inside before level : Nat) (name : String)
    (children : List Node) :
    (ofHeading level name children).contentsFrom inside before =
      ⟨inside, (ofHeading level name []).info⟩ ::
        contentsOf (before + 1) (before + 1) children := by
  rw [ofHeading, contentsFrom]
  rfl

theorem contentsFrom_ofTest (inside before : Nat) (fixture : Fixture) :
    (ofTest fixture).contentsFrom inside before = [⟨inside, (ofTest fixture).info⟩] := by
  rw [ofTest, contentsFrom]
  rfl

theorem contents_ofFile (name : String) (children : List Node) :
    (ofFile name children).contents = ⟨0, (ofFile name []).info⟩ :: contentsOf 0 0 children := by
  rw [contents, ofFile, contentsFrom]
  rfl

mutual
theorem map_info_contentsFrom (inside before : Nat) : ∀ tree : Node,
    (tree.contentsFrom inside before).map TreeEntry.info = tree.infos
  | node info children => by
      rw [contentsFrom, infos_node]
      split <;> rw [List.map_cons, map_info_contentsOf]

theorem map_info_contentsOf (inside before : Nat) : ∀ trees : List Node,
    (contentsOf inside before trees).map TreeEntry.info = infosOf trees
  | [] => rfl
  | child :: rest => by
      rw [contentsOf, List.map_append, infosOf_cons, map_info_contentsFrom inside before child,
        map_info_contentsOf _ _ rest]
end

theorem map_info_contents (tree : Node) : tree.contents.map TreeEntry.info = tree.infos :=
  map_info_contentsFrom 0 0 tree

def payloads (tree : Node) : List (Option Fixture) := tree.tests.map fun test => test.info.test

theorem map_info_tests_eq (tree : Node) :
    tree.tests.map info = (tree.contents.filter TreeEntry.isTest).map TreeEntry.info := by
  rw [map_info_tests, ← map_info_contents, List.filter_map]
  rfl

theorem payloads_eq (tree : Node) :
    tree.payloads = (tree.contents.filter TreeEntry.isTest).map fun entry => entry.info.test := by
  have tests := congrArg (List.map NodeInfo.test) (map_info_tests_eq tree)
  rw [List.map_map, List.map_map] at tests
  exact tests

/-! ## Levels on the ways down -/

def headingLevels (tree : Node) : List Nat := if tree.info.isHeading then [tree.info.level] else []

def levelsAlong : (path : List Nat) → Node → List Nat
  | [], tree => tree.headingLevels
  | index :: path, tree =>
      tree.headingLevels ++ ((tree.children[index]?).map (levelsAlong path)).getD []

/-- The levels on each way down grow, and are greater than the one above if there is one. -/
def Rises (above : Option Nat) (tree : Node) : Prop :=
  ∀ path, (above.toList ++ tree.levelsAlong path).Pairwise (· < ·)

theorem rises_ofTest (above : Option Nat) (fixture : Fixture) : (ofTest fixture).Rises above := by
  intro path
  have none : (ofTest fixture).levelsAlong path = [] := by cases path <;> rfl
  rw [none, List.append_nil]
  cases above with
  | none => exact .nil
  | some outer => exact List.pairwise_singleton _ outer

theorem rises_ofFile {name : String} {children : List Node}
    (rise : ∀ child ∈ children, child.Rises none) : (ofFile name children).Rises none := by
  intro path
  cases path with
  | nil => exact .nil
  | cons index path =>
      change (((children[index]?).map (levelsAlong path)).getD []).Pairwise (· < ·)
      cases found : children[index]? with
      | none => exact .nil
      | some child => exact rise child (List.mem_of_getElem? found) path

theorem rises_ofHeading {above : Option Nat} {level : Nat} {name : String} {children : List Node}
    (greater : ∀ outer ∈ above, outer < level)
    (rise : ∀ child ∈ children, child.Rises (some level)) :
    (ofHeading level name children).Rises above := by
  intro path
  have below : ∃ rest, (ofHeading level name children).levelsAlong path = level :: rest ∧
      (level :: rest).Pairwise (· < ·) := by
    cases path with
    | nil => exact ⟨[], rfl, List.pairwise_singleton _ level⟩
    | cons index path =>
        refine ⟨_, rfl, ?_⟩
        change (level :: ((children[index]?).map (levelsAlong path)).getD []).Pairwise (· < ·)
        cases found : children[index]? with
        | none => exact List.pairwise_singleton _ level
        | some child => exact rise child (List.mem_of_getElem? found) path
  rcases below with ⟨rest, same, rising⟩
  rw [same]
  cases above with
  | none => exact rising
  | some outer =>
      have first : outer < level := greater outer rfl
      refine List.pairwise_cons.mpr ⟨?_, rising⟩
      intro inner member
      rcases List.mem_cons.mp member with rfl | member
      · exact first
      · exact Nat.lt_trans first (List.rel_of_pairwise_cons rising member)

end Node

end LiterateTest
