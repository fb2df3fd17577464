import LiterateTest.Proofs.Document.Settlement

/-! The order of the tests of a document. They come as they are complete, each in the last heading
in front of the block that declares it. -/

namespace LiterateTest

/-- A row of a table is complete while a test that is declared in front of it waits. -/
def Declaration.Overtakes (row test : Declaration) : Prop :=
  row.row ≠ 0 ∧ test.position < row.position ∧ row.position < test.settled

instance (row test : Declaration) : Decidable (row.Overtakes test) :=
  inferInstanceAs (Decidable (_ ∧ _))

namespace Document

open Declaration

section

variable {frontMatter : FrontMatter} {sourceDir : String}

theorem declarationsFrom_of_begins {rest : List Block} (begins : BeginsWithHeading rest)
    (heading : Option Heading) (before : List Block) (position : Nat) :
    declarationsFrom frontMatter sourceDir heading before position rest =
      declarationsFrom frontMatter sourceDir none [] position rest := by
  rcases begins with rfl | ⟨level, text, rest, rfl⟩ <;> rfl

theorem lt_position_of_begins {rest : List Block} (begins : BeginsWithHeading rest)
    {position : Nat} {declaration : Declaration}
    (member : declaration ∈ declarationsFrom frontMatter sourceDir none [] position rest) :
    position < declaration.position := by
  rcases begins with rfl | ⟨level, text, rest, rfl⟩
  · cases member
  · change declaration ∈ declarationsFrom frontMatter sourceDir (some ⟨level, text⟩) []
      (position + 1) rest at member
    exact (mem_declarationsFrom member).start_le

theorem declarationsFrom_body {body : List Block} (plain : ∀ block ∈ body, block.isPlain = true)
    {rest : List Block} (begins : BeginsWithHeading rest) (heading : Option Heading)
    (position : Nat) :
    declarationsFrom frontMatter sourceDir heading [] position (body ++ rest) =
      ofBody frontMatter sourceDir heading [] position body
        ++ declarationsFrom frontMatter sourceDir none [] (position + body.length) rest := by
  have first : rest.takeWhile Block.isPlain = [] ∧ rest.dropWhile Block.isPlain = rest := by
    rcases begins with rfl | ⟨level, text, rest, rfl⟩ <;> exact ⟨rfl, rfl⟩
  rw [declarationsFrom_eq, List.takeWhile_append_of_pos plain, List.dropWhile_append_of_pos plain,
    first.1, first.2, List.append_nil, declarationsFrom_of_begins begins]

theorem declarationsFrom_segment {segment : Segment}
    (plain : ∀ block ∈ segment.body, block.isPlain = true) {rest : List Block}
    (begins : BeginsWithHeading rest) (position : Nat) :
    declarationsFrom frontMatter sourceDir none [] position (segment.blocks ++ rest) =
      ofBody frontMatter sourceDir segment.heading [] (position + segment.heading.toList.length)
          segment.body
        ++ declarationsFrom frontMatter sourceDir none [] (position + segment.blocks.length)
          rest := by
  rcases segment with ⟨heading, body⟩
  cases heading with
  | none => exact declarationsFrom_body plain begins none position
  | some heading =>
      have shift : position + (Segment.blocks ⟨some heading, body⟩).length =
          position + 1 + body.length := by
        simp only [Segment.blocks, Option.map_some, Option.toList_some, List.cons_append,
          List.nil_append, List.length_cons]
        omega
      rw [shift]
      exact declarationsFrom_body plain begins (some heading) (position + 1)

theorem headings_append (first second : List Block) :
    headings (first ++ second) = headings first ++ headings second :=
  List.filterMap_append

theorem headings_of_isPlain {body : List Block} (plain : ∀ block ∈ body, block.isPlain = true) :
    headings body = [] := by
  apply List.filterMap_eq_nil_iff.mpr
  intro block member
  have isPlain := plain block member
  cases block with
  | heading level text => cases isPlain
  | code language content => rfl
  | list items => rfl
  | table headers rows => rfl

theorem headings_segment {segment : Segment}
    (plain : ∀ block ∈ segment.body, block.isPlain = true) :
    headings segment.blocks = segment.title?.toList := by
  rw [Segment.blocks, headings_append, headings_of_isPlain plain, List.append_nil, Segment.title?,
    Segment.commandName?]
  cases segment.heading with
  | none => rfl
  | some heading =>
      simp only [Option.map_some, Option.toList_some, Option.bind_some, headings,
        List.filterMap_cons, List.filterMap_nil, Block.title?]
      cases CommandBlock.name? heading <;> rfl

theorem headings_take {segment : Segment}
    (plain : ∀ block ∈ segment.body, block.isPlain = true) (done rest : List Block)
    {position : Nat} (ge : done.length + segment.heading.toList.length ≤ position)
    (le : position ≤ done.length + segment.heading.toList.length + segment.body.length) :
    headings ((done ++ (segment.blocks ++ rest)).take position) =
      headings done ++ segment.title?.toList := by
  have noTitle : headings (segment.body.take
      (position - (done.length + segment.heading.toList.length))) = [] :=
    headings_of_isPlain fun block member => plain block (List.mem_of_mem_take member)
  have own := headings_segment plain
  rw [Segment.blocks, headings_append, headings_of_isPlain plain, List.append_nil] at own
  have count : ((segment.heading.map fun heading =>
      Block.heading heading.level heading.text).toList).length = segment.heading.toList.length := by
    cases segment.heading <;> rfl
  rw [Segment.blocks, ← own, List.append_assoc, ← List.append_assoc, List.take_append,
    List.take_of_length_le (by rw [List.length_append, count]; exact ge),
    List.take_append_of_le_length (by rw [List.length_append, count]; omega), headings_append,
    headings_append, List.length_append, count, noTitle, List.append_nil]

/-- The tests of some segments with the headings that they stand in, in the order in which they are
complete. -/
structure Settles (frontMatter : FrontMatter) (sourceDir : String) (done blocks : List Block)
    (entries : List TreeEntry) (settled : List Declaration) : Prop where
  declared : settled.Perm (declarationsFrom frontMatter sourceDir none [] done.length blocks)
  ordered : settled.Pairwise SettledBefore
  entries : entries = settled.map fun declaration =>
    .ofTest (headings ((done ++ blocks).take declaration.position)).length declaration.fixture

theorem Settles.cons {segment : Segment} {tests : List Fixture}
    (plain : ∀ block ∈ segment.body, block.isPlain = true)
    (found : segment.fixtures frontMatter sourceDir = .ok tests) {done rest : List Block}
    (begins : BeginsWithHeading rest) {entries : List TreeEntry} {later : List Declaration}
    (settles : Settles frontMatter sourceDir (done ++ segment.blocks) rest entries later) :
    ∃ settled, Settles frontMatter sourceDir done (segment.blocks ++ rest)
      (tests.map (TreeEntry.ofTest ((headings done).length + segment.title?.toList.length))
        ++ entries) settled := by
  rcases exists_settled_of_segment found (done.length + segment.heading.toList.length) with
    ⟨own, perm, fixtures, ordered⟩
  have length : segment.blocks.length = segment.heading.toList.length + segment.body.length := by
    rw [Segment.blocks, List.length_append]
    cases segment.heading <;> rfl
  have declaredLater := settles.declared
  rw [List.length_append] at declaredLater
  refine ⟨own ++ later, ?_, ?_, ?_⟩
  · rw [declarationsFrom_segment plain begins]
    exact perm.append declaredLater
  · refine List.pairwise_append.mpr ⟨ordered, settles.ordered, ?_⟩
    intro first isFirst second isSecond
    have early := (mem_ofBody (perm.subset isFirst)).settled_le
    have member := declaredLater.subset isSecond
    have late := lt_position_of_begins begins member
    have wait := (mem_declarationsFrom member).position_le
    left
    omega
  · rw [List.map_append, settles.entries, List.append_assoc, ← fixtures, List.map_map]
    congr 1
    apply List.map_congr_left
    intro declaration member
    have fits := mem_ofBody (perm.subset member)
    rw [headings_take plain done rest fits.start_le (Nat.le_of_lt fits.lt_finish),
      List.length_append]
    rfl

theorem exists_settles {segments : List Segment} (series : Segment.Series segments)
    {parts : List (Segment × List Fixture)}
    (found : segments.mapM (Segment.withTests frontMatter sourceDir) = .ok parts)
    (done : List Block) :
    ∃ settled, Settles frontMatter sourceDir done (segments.flatMap Segment.blocks)
      (testEntries (headings done).length parts) settled := by
  induction series generalizing parts done with
  | nil =>
      cases found
      exact ⟨[], .nil, .nil, rfl⟩
  | @cons segment rest plain begins _ induction =>
      rcases Segment.exists_of_withTests_cons found with ⟨tests, others, own, later, rfl⟩
      rcases induction later (done ++ segment.blocks) with ⟨settled, settles⟩
      rw [headings_append, headings_segment plain, List.length_append] at settles
      rw [List.flatMap_cons, testEntries]
      exact settles.cons plain own begins

theorem tests_of_ofBlocks {name : String} {blocks : List Block} {root : Node}
    (read : ofBlocks name blocks frontMatter sourceDir = .ok root) :
    root.contents.filter TreeEntry.isTest =
      (settlements frontMatter sourceDir blocks).map fun declaration =>
        .ofTest (headings (blocks.take declaration.position)).length declaration.fixture := by
  rcases filter_contents_of_ofBlocks read with ⟨parts, found, -, tests, -⟩
  rw [segments_eq] at found
  rcases exists_settles (Segment.series_all blocks) found [] with
    ⟨settled, declared, ordered, entries⟩
  rw [Segment.flatMap_blocks_all] at declared entries
  have sorted : settlements frontMatter sourceDir blocks = settled := mergeSort_eq declared ordered
  rw [tests, sorted]
  exact entries

/-! ## Order of declaration -/

theorem pairwise_declarations (blocks : List Block) :
    (declarations frontMatter sourceDir blocks).Pairwise DeclaredBefore :=
  pairwise_declarationsFrom none [] 0 blocks

theorem fits_of_mem_declarations {blocks : List Block} {declaration : Declaration}
    (member : declaration ∈ declarations frontMatter sourceDir blocks) :
    Fits 0 (0 + blocks.length) declaration :=
  mem_declarationsFrom member

theorem noLater_of_declaredBefore {start finish : Nat} {first second : Declaration}
    (before : DeclaredBefore first second) (firstFits : Fits start finish first)
    (secondFits : Fits start finish second) (inOrder : ¬second.Overtakes first) :
    noLater first second = true := by
  rw [noLater_iff]
  rcases before with ⟨behind, wait⟩ | ⟨-, same, row⟩
  · have complete : first.settled ≤ second.position := by
      rcases wait with le | isRow
      · exact le
      · exact Nat.le_of_not_lt fun waits => inOrder ⟨isRow, behind, waits⟩
    have later := secondFits.position_le
    rcases Nat.lt_or_ge first.settled second.settled with less | ge
    · exact .inl less
    · -- Just a row is complete where it is declared, and the first test waits.
      have noRow := firstFits.row_eq_zero (by omega)
      omega
  · exact .inr ⟨same, Nat.le_of_lt row⟩

theorem settlements_eq_iff {blocks : List Block} :
    settlements frontMatter sourceDir blocks = declarations frontMatter sourceDir blocks ↔
      ∀ test ∈ declarations frontMatter sourceDir blocks,
        ∀ row ∈ declarations frontMatter sourceDir blocks, ¬row.Overtakes test := by
  constructor
  · rintro same test isTest row isRow ⟨isTableRow, behind, waits⟩
    have sorted : (settlements frontMatter sourceDir blocks).Pairwise fun first second =>
        noLater first second = true :=
      List.pairwise_mergeSort noLater_trans noLater_total _
    rw [same] at sorted
    have early : noLater test row = true := by
      refine List.Pairwise.forall_of_forall_of_flip
        (R := fun first second => first.position < second.position → noLater first second = true)
        ?_ ?_ ?_ isTest isRow behind
      · intro test _ less
        exact absurd less (Nat.lt_irrefl _)
      · refine sorted.imp ?_
        intro first second before _
        exact before
      · refine (pairwise_declarations blocks).imp ?_
        intro first second before less
        rcases before with ⟨other, -⟩ | ⟨same, -⟩ <;> omega
    have atOnce := (fits_of_mem_declarations isRow).row isTableRow
    rw [noLater_iff] at early
    omega
  · intro inOrder
    apply List.mergeSort_of_pairwise
    refine (pairwise_declarations blocks).imp_of_mem ?_
    intro first second isFirst isSecond before
    exact noLater_of_declaredBefore before (fits_of_mem_declarations isFirst)
      (fits_of_mem_declarations isSecond) (inOrder first isFirst second isSecond)

/-- The tests of a tree come in the order in which they are complete. That is the order of the
blocks that declare them just if no row of a table overtakes a test that still waits. -/
theorem payloads_settled {name : String} {blocks : List Block} {root : Node}
    (read : ofBlocks name blocks frontMatter sourceDir = .ok root) :
    (declarations frontMatter sourceDir blocks).Pairwise (fun first second =>
        first.position < second.position ∨
          (first.position = second.position ∧ first.row < second.row)) ∧
      root.payloads =
        (settlements frontMatter sourceDir blocks).map (fun declaration =>
          some declaration.fixture) ∧
      (settlements frontMatter sourceDir blocks = declarations frontMatter sourceDir blocks ↔
        ∀ test ∈ declarations frontMatter sourceDir blocks,
          ∀ row ∈ declarations frontMatter sourceDir blocks, ¬row.Overtakes test) := by
  refine ⟨?_, ?_, settlements_eq_iff⟩
  · refine (pairwise_declarations blocks).imp ?_
    rintro first second (⟨less, -⟩ | ⟨same, -, row⟩)
    · exact .inl less
    · exact .inr ⟨same, row⟩
  · rw [Node.payloads_eq, tests_of_ofBlocks read, List.map_map]
    rfl

end

theorem payloads_settled_of_validated_code :
    ∃ root, ofBlocks "a.md"
        [.heading 1 "Checks", .code "sh" "true", .list ["contains: a"], .table ["Name"] [["x"]]] {}
        "" = .ok root ∧
      root.payloads.map (fun payload => payload.map Fixture.name) = [some "Checks", some "x"] := by
  have read : ofBlocks "a.md"
      [.heading 1 "Checks", .code "sh" "true", .list ["contains: a"], .table ["Name"] [["x"]]] {}
      "" = .ok _ := rfl
  rcases payloads_settled read with ⟨-, tests, order⟩
  refine ⟨_, read, ?_⟩
  rw [tests, order.mpr (by decide)]
  decide

/-- The code under the heading is declared in front of the table, but waits for validations until
the document ends. -/
theorem payloads_of_overtaking_row :
    ∃ root, ofBlocks "a.md" [.heading 1 "Checks", .code "sh" "true", .table ["Name"] [["x"]]] {}
        "" = .ok root ∧
      (declarations {} "" [.heading 1 "Checks", .code "sh" "true", .table ["Name"] [["x"]]]).map
        (fun declaration => (declaration.position, declaration.fixture.name)) =
          [(1, "Checks"), (2, "x")] ∧
      root.payloads.map (fun payload => payload.map Fixture.name) = [some "x", some "Checks"] := by
  refine ⟨_, rfl, ?_, ?_⟩
  · decide
  · decide

end Document

end LiterateTest
