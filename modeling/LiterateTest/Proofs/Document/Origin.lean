import LiterateTest.Proofs.Document.Order

/-! What the tests of a document are made from, and how they are named. Code is never blank, and
rows and commands have names. Code outside of commands goes by the heading above it, so that it has
no name just where that heading has no text. -/

namespace LiterateTest

def Block.heading? : Block → Option Heading
  | heading level text => some ⟨level, text⟩
  | _ => none

theorem Block.heading?_of_isPlain {block : Block} (isPlain : block.isPlain = true) :
    block.heading? = none := by
  cases block with
  | heading level text => cases isPlain
  | code language content => rfl
  | list items => rfl
  | table headers rows => rfl

namespace Document

def lastHeading? (blocks : List Block) : Option Heading :=
  (blocks.filterMap Block.heading?).getLast?

/-- How a test comes from a block, where `heading` is the last one above the block. -/
inductive Origin (frontMatter : FrontMatter) (sourceDir : String) (heading : Option Heading) :
    Block → Fixture → Prop
  | row {headers cells : List String} {rows : List (List String)} {number : Nat}
      (numbered : (cells, number) ∈ rows.zipIdx 1) (full : cells.length = headers.length) :
      Origin frontMatter sourceDir heading (.table headers rows)
        (.ofRow headers cells number frontMatter sourceDir)
  | command {name language code : String} {overrides : Overrides} {validations : List String}
      (isCommand : heading.bind CommandBlock.name? = some name) (named : name ≠ "")
      (visible : Text.isBlankText code = false) :
      Origin frontMatter sourceDir heading (.code language code)
        (CommandBlock.fixture name frontMatter sourceDir overrides (Language.command language code)
          validations)
  | standalone {language code : String} {fixture : Fixture} {validations : List String}
      (noCommand : heading.bind CommandBlock.name? = none)
      (isStandalone : Language.isStandalone language = true)
      (made : StandaloneBlock.fixture?
        { name := (heading.map Heading.text).getD (language ++ "-block"), language, code }
        frontMatter sourceDir validations = some fixture) :
      Origin frontMatter sourceDir heading (.code language code) fixture

end Document

theorem Block.eq_code_of_command? {frontMatter : FrontMatter} {block : Block}
    {language code : String} (found : block.command? frontMatter = some (language, code)) :
    block = .code language code := by
  cases block with
  | code other content =>
      rw [command?] at found
      split at found
      · cases found
        rfl
      · cases found
  | heading level text => cases found
  | list items => cases found
  | table headers rows => cases found

theorem Block.eq_code_of_standalone? {block : Block} {language code : String}
    (found : block.standalone? = some (language, code)) :
    block = .code language code ∧ Language.isStandalone language = true := by
  cases block with
  | code other content =>
      rw [standalone?] at found
      split at found
      · next isStandalone =>
          cases found
          exact ⟨rfl, isStandalone⟩
      · cases found
  | heading level text => cases found
  | list items => cases found
  | table headers rows => cases found

/-! ## Names -/

theorem RowState.name_enter_ne_empty {state : RowState} (named : state.fixture.name ≠ "")
    (header cell : String) : (state.enter header cell).fixture.name ≠ "" := by
  rw [enter]
  cases Column.ofHeader header with
  | name =>
      dsimp only
      split
      · exact named
      · next visible => simpa using visible
  | cwd | query | args | output | format | error | property key => exact named
  | exec | expression =>
      dsimp only
      split <;> exact named
  | exitCode | count =>
      dsimp only
      split
      · exact named
      · split <;> exact named

theorem RowState.name_foldl_ne_empty (cells : List (String × String)) {state : RowState}
    (named : state.fixture.name ≠ "") :
    (cells.foldl (fun state (header, cell) => state.enter header cell) state).fixture.name ≠
      "" := by
  induction cells generalizing state with
  | nil => exact named
  | cons cell rest induction =>
      rcases cell with ⟨header, cell⟩
      rw [List.foldl_cons]
      apply induction
      dsimp only
      exact name_enter_ne_empty named header cell

theorem Fixture.name_ofRow_ne_empty (headers cells : List String) (number : Nat)
    (frontMatter : FrontMatter) (sourceDir : String) :
    (Fixture.ofRow headers cells number frontMatter sourceDir).name ≠ "" := by
  rw [Fixture.ofRow, RowState.finish]
  apply RowState.name_foldl_ne_empty
  simp [Fixture.inDocument]

theorem StandaloneBlock.of_fixture? {block : StandaloneBlock} {frontMatter : FrontMatter}
    {sourceDir : String} {validations : List String} {fixture : Fixture}
    (made : block.fixture? frontMatter sourceDir validations = some fixture) :
    fixture.name = block.name ∧ Text.isBlankText block.code = false := by
  rw [fixture?] at made
  split at made
  · cases made
  · next visible =>
      cases made
      exact ⟨rfl, Bool.eq_false_iff.mpr visible⟩

namespace Document

section

variable {frontMatter : FrontMatter} {sourceDir : String}

theorem Origin.visible {heading : Option Heading} {language code : String} {fixture : Fixture}
    (origin : Origin frontMatter sourceDir heading (.code language code) fixture) :
    Text.isBlankText code = false := by
  cases origin with
  | command isCommand named visible => exact visible
  | standalone noCommand isStandalone made => exact (StandaloneBlock.of_fixture? made).2

theorem Origin.name_eq_empty_iff {heading : Option Heading} {block : Block} {fixture : Fixture}
    (origin : Origin frontMatter sourceDir heading block fixture) :
    fixture.name = "" ↔
      (∃ language code, block = .code language code) ∧ heading.map Heading.text = some "" := by
  cases origin with
  | row numbered full => simp [Fixture.name_ofRow_ne_empty]
  | command isCommand named visible =>
      constructor
      · intro unnamed
        exact absurd unnamed named
      · rintro ⟨-, untitled⟩
        rcases Option.map_eq_some_iff.mp untitled with ⟨⟨level, text⟩, rfl, rfl⟩
        cases isCommand
  | standalone noCommand isStandalone made =>
      rw [(StandaloneBlock.of_fixture? made).1]
      cases heading with
      | none => simp
      | some heading => simp

/-! ## Places -/

theorem lastHeading?_cons_or (block : Block) (rest : List Block) (heading : Option Heading) :
    (lastHeading? (block :: rest)).or heading =
      (lastHeading? rest).or (block.heading?.or heading) := by
  rw [lastHeading?, lastHeading?, List.filterMap_cons]
  cases block.heading? with
  | none => rfl
  | some found =>
      simp only [List.getLast?_cons, Option.some_or]
      cases (rest.filterMap Block.heading?).getLast? <;> rfl

theorem origin_of_mem_ofRows {heading : Option Heading} {position : Nat} {block : Block}
    {declaration : Declaration}
    (member : declaration ∈ Declaration.ofRows frontMatter sourceDir position block) :
    Origin frontMatter sourceDir heading block declaration.fixture := by
  cases block with
  | table headers rows =>
      rcases List.mem_filterMap.mp member with ⟨⟨cells, number⟩, numbered, found⟩
      dsimp only at found
      rw [Declaration.ofRow?] at found
      split at found
      · next full =>
          cases found
          exact .row numbered full
      · cases found
  | heading level text => cases member
  | code language content => cases member
  | list items => cases member

theorem origin_of_mem_ofCommand {heading : Option Heading} {name : String}
    (isCommand : heading.bind CommandBlock.name? = some name) {before : List Block}
    {position : Nat} {block : Block} {after : List Block} {declaration : Declaration}
    (member : declaration ∈
      Declaration.ofCommand frontMatter sourceDir name before position block after) :
    Origin frontMatter sourceDir heading block declaration.fixture := by
  rw [Declaration.ofCommand] at member
  split at member
  · cases member
  · next language code found =>
      split at member
      · cases member
      · split at member
        · cases member
        · next runs =>
            split at member
            · cases member
            · cases List.mem_singleton.mp member
              rw [Bool.or_eq_true, not_or, Bool.not_eq_true, Bool.not_eq_true] at runs
              rw [Block.eq_code_of_command? found]
              exact .command isCommand (by simpa using runs.1) runs.2

theorem origin_of_mem_ofStandalone {heading : Option Heading}
    (noCommand : heading.bind CommandBlock.name? = none) {position : Nat} {block : Block}
    {after : List Block} {declaration : Declaration}
    (member : declaration ∈ Declaration.ofStandalone frontMatter sourceDir
      (heading.map Heading.text) position block after) :
    Origin frontMatter sourceDir heading block declaration.fixture := by
  rw [Declaration.ofStandalone] at member
  split at member
  · cases member
  · next language code found =>
      rcases Option.map_eq_some_iff.mp (Option.mem_toList.mp member) with ⟨fixture, made, rfl⟩
      rcases Block.eq_code_of_standalone? found with ⟨rfl, isStandalone⟩
      exact .standalone noCommand isStandalone made

theorem origin_of_mem_ofBlock {heading : Option Heading} {before : List Block} {position : Nat}
    {block : Block} {after : List Block} {declaration : Declaration}
    (member : declaration ∈
      Declaration.ofBlock frontMatter sourceDir heading before position block after) :
    Origin frontMatter sourceDir heading block declaration.fixture := by
  rcases List.mem_append.mp member with member | member
  · exact origin_of_mem_ofRows member
  · split at member
    · next name isCommand => exact origin_of_mem_ofCommand isCommand member
    · next noCommand => exact origin_of_mem_ofStandalone noCommand member

theorem exists_origin_of_mem {heading : Option Heading} {before : List Block} {position : Nat}
    {blocks : List Block} {declaration : Declaration}
    (member : declaration ∈
      declarationsFrom frontMatter sourceDir heading before position blocks) :
    ∃ earlier block later, blocks = earlier ++ block :: later ∧
      Origin frontMatter sourceDir ((lastHeading? earlier).or heading) block
        declaration.fixture := by
  induction blocks generalizing heading before position with
  | nil => cases member
  | cons first rest induction =>
      have further {before : List Block}
          (member : declaration ∈ declarationsFrom frontMatter sourceDir
            (first.heading?.or heading) before (position + 1) rest) :
          ∃ earlier block later, first :: rest = earlier ++ block :: later ∧
            Origin frontMatter sourceDir ((lastHeading? earlier).or heading) block
              declaration.fixture := by
        rcases induction member with ⟨earlier, block, later, rfl, origin⟩
        rw [← lastHeading?_cons_or] at origin
        exact ⟨first :: earlier, block, later, rfl, origin⟩
      cases isPlain : first.isPlain with
      | false =>
          rcases Block.exists_heading isPlain with ⟨level, text, rfl⟩
          exact further member
      | true =>
          rw [declarationsFrom_cons isPlain] at member
          rw [Block.heading?_of_isPlain isPlain] at further
          rcases List.mem_append.mp member with member | member
          · exact ⟨[], first, rest, rfl, origin_of_mem_ofBlock member⟩
          · exact further member

variable (frontMatter sourceDir) in
theorem exists_subset_declarationsFrom (heading : Option Heading) (before : List Block)
    (position : Nat) (earlier : List Block) {block : Block} (isPlain : block.isPlain = true)
    (later : List Block) :
    ∃ before' position', Declaration.ofBlock frontMatter sourceDir
        ((lastHeading? earlier).or heading) before' position' block
          (later.takeWhile Block.isPlain) ⊆
      declarationsFrom frontMatter sourceDir heading before position
        (earlier ++ block :: later) := by
  induction earlier generalizing heading before position with
  | nil =>
      refine ⟨before, position, ?_⟩
      rw [List.nil_append, declarationsFrom_cons isPlain]
      exact List.subset_append_left _ _
  | cons first rest induction =>
      rw [lastHeading?_cons_or, List.cons_append]
      cases firstPlain : first.isPlain with
      | false =>
          rcases Block.exists_heading firstPlain with ⟨level, text, rfl⟩
          exact induction (some ⟨level, text⟩) [] (position + 1)
      | true =>
          rw [Block.heading?_of_isPlain firstPlain, declarationsFrom_cons firstPlain]
          rcases induction heading (before ++ [first]) (position + 1) with
            ⟨before', position', declared⟩
          exact ⟨before', position', List.Subset.trans declared (List.subset_append_right _ _)⟩

/-! ## Tests -/

variable {name : String} {blocks : List Block} {root : Node}

theorem map_info_tests_of_ofBlocks
    (read : ofBlocks name blocks frontMatter sourceDir = .ok root) :
    root.tests.map Node.info =
      (settlements frontMatter sourceDir blocks).map fun declaration =>
        (Node.ofTest declaration.fixture).info := by
  rw [Node.map_info_tests_eq, tests_of_ofBlocks read, List.map_map]
  rfl

theorem exists_origin_of_mem_tests
    (read : ofBlocks name blocks frontMatter sourceDir = .ok root) {test : Node}
    (member : test ∈ root.tests) :
    ∃ earlier block later fixture, blocks = earlier ++ block :: later ∧
      test.info.test = some fixture ∧ test.info.name = fixture.name ∧
      Origin frontMatter sourceDir (lastHeading? earlier) block fixture := by
  have isInfo := List.mem_map_of_mem (f := Node.info) member
  rw [map_info_tests_of_ofBlocks read] at isInfo
  rcases List.mem_map.mp isInfo with ⟨declaration, isSettled, same⟩
  have isDeclared := List.mem_mergeSort.mp isSettled
  rcases exists_origin_of_mem isDeclared with ⟨earlier, block, later, split, origin⟩
  rw [Option.or_none] at origin
  refine ⟨earlier, block, later, declaration.fixture, split, ?_, ?_, origin⟩
  · rw [← same]
    rfl
  · rw [← same]
    rfl

theorem exists_mem_ofBlock_of_standalone {heading : Option Heading} {language code : String}
    (noCommand : heading.bind CommandBlock.name? = none)
    (isStandalone : Language.isStandalone language = true)
    (visible : Text.isBlankText code = false) (before : List Block) (position : Nat)
    (after : List Block) :
    ∃ declaration ∈ Declaration.ofBlock frontMatter sourceDir heading before position
        (.code language code) after,
      declaration.fixture.name = (heading.map Heading.text).getD (language ++ "-block") := by
  have found : Block.standalone? (.code language code) = some (language, code) :=
    if_pos isStandalone
  have runs : ¬Text.isBlankText code = true := by simp [visible]
  rw [Declaration.ofBlock, noCommand]
  dsimp only
  rw [Declaration.ofStandalone, found]
  dsimp only
  rw [StandaloneBlock.fixture?, if_neg runs]
  exact ⟨_, List.mem_append_right _ (List.mem_singleton_self _), rfl⟩

theorem exists_test_of_standalone
    (read : ofBlocks name blocks frontMatter sourceDir = .ok root) {earlier later : List Block}
    {language code : String} (split : blocks = earlier ++ .code language code :: later)
    (noCommand : (lastHeading? earlier).bind CommandBlock.name? = none)
    (isStandalone : Language.isStandalone language = true)
    (visible : Text.isBlankText code = false) :
    ∃ test ∈ root.tests,
      test.info.name =
        ((lastHeading? earlier).map Heading.text).getD (language ++ "-block") := by
  have isPlain : (Block.code language code).isPlain = true := rfl
  rcases exists_subset_declarationsFrom frontMatter sourceDir none [] 0 earlier isPlain later with
    ⟨before, position, declared⟩
  rw [Option.or_none, ← split] at declared
  rcases exists_mem_ofBlock_of_standalone noCommand isStandalone visible before position
    (later.takeWhile Block.isPlain) with ⟨declaration, member, named⟩
  have isInfo : (Node.ofTest declaration.fixture).info ∈ root.tests.map Node.info := by
    rw [map_info_tests_of_ofBlocks read]
    exact List.mem_map_of_mem (List.mem_mergeSort.mpr (declared member))
  rcases List.mem_map.mp isInfo with ⟨test, isTest, same⟩
  refine ⟨test, isTest, ?_⟩
  rw [same]
  exact named

/-- Each test comes from a block of its document, and from code just if that is not blank. It has no
name just if it comes from code of a standalone language below a heading without text; if no such
code is there, all tests have names. -/
theorem named_ofBlocks (read : ofBlocks name blocks frontMatter sourceDir = .ok root) :
    (∀ test ∈ root.tests, ∃ earlier block later fixture,
      blocks = earlier ++ block :: later ∧ test.info.test = some fixture ∧
      Origin frontMatter sourceDir (lastHeading? earlier) block fixture ∧
      (∀ language code, block = .code language code → Text.isBlankText code = false) ∧
      (test.info.name = "" ↔ (∃ language code, block = .code language code) ∧
        (lastHeading? earlier).map Heading.text = some "")) ∧
    ((∀ test ∈ root.tests, test.info.name ≠ "") ↔
      ∀ earlier language code later, blocks = earlier ++ .code language code :: later →
        Language.isStandalone language = true → Text.isBlankText code = false →
          (lastHeading? earlier).map Heading.text ≠ some "") := by
  constructor
  · intro test member
    rcases exists_origin_of_mem_tests read member with
      ⟨earlier, block, later, fixture, split, isTest, named, origin⟩
    refine ⟨earlier, block, later, fixture, split, isTest, origin, ?_, ?_⟩
    · rintro language code rfl
      exact origin.visible
    · rw [named]
      exact origin.name_eq_empty_iff
  · constructor
    · rintro named earlier language code later split isStandalone visible untitled
      rcases Option.map_eq_some_iff.mp untitled with ⟨⟨level, text⟩, isLast, rfl⟩
      have noCommand : (lastHeading? earlier).bind CommandBlock.name? = none := by
        rw [isLast]
        rfl
      rcases exists_test_of_standalone read split noCommand isStandalone visible with
        ⟨test, member, unnamed⟩
      apply named test member
      rw [unnamed, untitled]
      rfl
    · intro titled test member unnamed
      rcases exists_origin_of_mem_tests read member with
        ⟨earlier, block, later, fixture, split, -, named, origin⟩
      rw [named] at unnamed
      rcases origin.name_eq_empty_iff.mp unnamed with ⟨⟨language, code, rfl⟩, untitled⟩
      cases origin with
      | command isCommand hasName visible => exact hasName unnamed
      | standalone noCommand isStandalone made =>
          exact titled earlier language code later split isStandalone
            (StandaloneBlock.of_fixture? made).2 untitled

end

theorem named_ofBlocks_of_table :
    ∃ root, ofBlocks "a.md"
        [.heading 1 "", .table ["Name"] [["x"]], .heading 2 "Two", .code "py" "pass"] {} "" =
          .ok root ∧
      ∀ test ∈ root.tests, test.info.name ≠ "" := by
  have read : ofBlocks "a.md"
      [.heading 1 "", .table ["Name"] [["x"]], .heading 2 "Two", .code "py" "pass"] {} "" =
        .ok _ := rfl
  refine ⟨_, read, (named_ofBlocks read).2.mpr ?_⟩
  intro earlier language code later split _ _
  rcases earlier with _ | ⟨first, _ | ⟨second, _ | ⟨third, _ | ⟨fourth, others⟩⟩⟩⟩
  · cases split
  · cases split
  · cases split
  · cases split
    decide
  · cases others <;> cases split

/-- The heading above the code has no text, and the test has no name. -/
theorem named_ofBlocks_exceptions :
    ∃ root, ofBlocks "doc.md" [.heading 1 "", .code "bash" "true\n"] {} "/docs" = .ok root ∧
      Text.isBlankText "true\n" = false ∧ ∃ test ∈ root.tests, test.info.name = "" := by
  have read : ofBlocks "doc.md" [.heading 1 "", .code "bash" "true\n"] {} "/docs" = .ok _ := rfl
  have visible : Text.isBlankText "true\n" = false := by decide
  have split : [.heading 1 "", .code "bash" "true\n"] =
      [.heading 1 ""] ++ Block.code "bash" "true\n" :: [] := rfl
  exact ⟨_, read, visible, exists_test_of_standalone read split rfl rfl visible⟩

end Document

end LiterateTest
