import LiterateTest.Proofs.Document.Order

/-! The sections of a tree. They mirror the headings of the document that begin no command. -/

namespace LiterateTest

namespace Document

/-- A tree has the headings of a document in their order, each in the nearest open heading of a
smaller level, and the tests of the document in the last headings in front of their declarations. -/
structure Mirrors (frontMatter : FrontMatter) (sourceDir : String) (blocks : List Block)
    (root : Node) : Prop where
  headings : (root.contents.filter TreeEntry.isHeading).map TreeEntry.heading =
    Document.headings blocks
  parents : ∀ before heading after, Document.headings blocks = before ++ heading :: after →
    ∃ entry, (root.contents.filter TreeEntry.isHeading)[before.length]? = some entry ∧
      StandsIn before heading entry.inside
  levels : ∀ path, (root.levelsAlong path).Pairwise (· < ·)
  tests : root.contents.filter TreeEntry.isTest =
    (settlements frontMatter sourceDir blocks).map fun declaration =>
      .ofTest (Document.headings (blocks.take declaration.position)).length declaration.fixture

section

variable {frontMatter : FrontMatter} {sourceDir : String}

theorem map_fst_of_withTests {segments : List Segment} {parts : List (Segment × List Fixture)}
    (found : segments.mapM (Segment.withTests frontMatter sourceDir) = .ok parts) :
    parts.map Prod.fst = segments := by
  induction segments generalizing parts with
  | nil =>
      cases found
      rfl
  | cons segment rest induction =>
      rcases Segment.exists_of_withTests_cons found with ⟨tests, others, -, later, rfl⟩
      rw [List.map_cons, induction later]

theorem headings_flatMap {segments : List Segment} (series : Segment.Series segments) :
    headings (segments.flatMap Segment.blocks) = segments.filterMap Segment.title? := by
  induction series with
  | nil => rfl
  | @cons segment rest plain _ _ induction =>
      rw [List.flatMap_cons, headings_append, headings_segment plain, induction,
        List.filterMap_cons]
      cases segment.title? <;> rfl

/-- The sections of a tree mirror the headings of its document. -/
theorem mirrors_ofBlocks {name : String} {blocks : List Block} {root : Node}
    (read : ofBlocks name blocks frontMatter sourceDir = .ok root) :
    Mirrors frontMatter sourceDir blocks root := by
  rcases filter_contents_of_ofBlocks read with ⟨parts, found, entries, -, rises⟩
  rw [segments_eq] at found
  have titles := headings_flatMap (Segment.series_all blocks)
  rw [Segment.flatMap_blocks_all, ← map_fst_of_withTests found, List.filterMap_map] at titles
  change root.contents.filter TreeEntry.isHeading =
    headingEntries [] (parts.filterMap (Segment.title? ∘ Prod.fst)) at entries
  rw [← titles] at entries
  constructor
  case headings => rw [entries, map_heading_headingEntries]
  case parents =>
    intro before heading after split
    have place := standsIn_parentNumber before.reverse heading
    have entry := getElem?_headingEntries [] before heading after
    rw [List.reverse_reverse] at place
    rw [← split, ← entries, List.append_nil] at entry
    exact ⟨_, entry, place⟩
  case levels => exact rises
  case tests => exact tests_of_ofBlocks read

theorem mirrors_ofBlocks_of_command :
    ∃ root, ofBlocks "a.md"
        [.heading 1 "One", .heading 3 "Deep", .heading 2 "command: go", .code "bash" "true",
          .heading 2 "Two"] {} "" = .ok root ∧
      (root.contents.filter TreeEntry.isHeading).map TreeEntry.heading =
        [⟨1, "One"⟩, ⟨3, "Deep"⟩, ⟨2, "Two"⟩] ∧
      (root.contents.filter TreeEntry.isTest).map (fun entry => (entry.inside, entry.info.name)) =
        [(2, "go")] := by
  have read : ofBlocks "a.md"
      [.heading 1 "One", .heading 3 "Deep", .heading 2 "command: go", .code "bash" "true",
        .heading 2 "Two"] {} "" = .ok _ := rfl
  have mirrors := mirrors_ofBlocks read
  refine ⟨_, read, ?_, ?_⟩
  · rw [mirrors.headings]
    decide
  · rw [mirrors.tests, settlements_eq_iff.mpr (by decide)]
    decide

end

end Document

end LiterateTest
