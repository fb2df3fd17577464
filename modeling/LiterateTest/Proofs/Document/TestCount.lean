import LiterateTest.Proofs.Document.Order

/-! How many tests a document has: its full rows, the commands that have a name and code, and the
code that stands in no command. Each is found by one look at the blocks. -/

namespace LiterateTest

def Block.fullRows : Block → List (List String)
  | table headers rows => rows.filter fun cells => cells.length == headers.length
  | _ => []

def CommandBlock.runs (frontMatter : FrontMatter) (command : String × List Block) : Bool :=
  !command.1.isEmpty &&
    (command.2.findSome? (Block.command? frontMatter)).any fun code => !Text.isBlankText code.2

namespace Document

def commands : List Block → List (String × List Block)
  | [] => []
  | .heading level text :: rest =>
      match CommandBlock.name? ⟨level, text⟩ with
      | some name => (name, rest.takeWhile Block.isPlain) :: commands rest
      | none => commands rest
  | _ :: rest => commands rest

def looseCode : (inCommand : Bool) → List Block → List (String × String)
  | _, [] => []
  | _, .heading level text :: rest => looseCode (CommandBlock.name? ⟨level, text⟩).isSome rest
  | true, _ :: rest => looseCode true rest
  | false, block :: rest => block.standalone?.toList ++ looseCode false rest

end Document

/-! ## Segments -/

namespace Segment

def commands (segment : Segment) : List (String × List Block) :=
  (segment.commandName?.map fun name => (name, segment.body)).toList

def looseCode (segment : Segment) : List (String × String) :=
  if segment.commandName?.isSome then [] else segment.body.filterMap Block.standalone?

end Segment

section

variable {frontMatter : FrontMatter} {sourceDir : String}

theorem Block.length_rowFixtures (block : Block) :
    (block.rowFixtures frontMatter sourceDir).length = block.fullRows.length := by
  cases block with
  | table headers rows =>
      let isFull (cells : List String) : Bool := cells.length == headers.length
      rw [rowFixtures, fullRows, List.length_filterMap_eq_countP, ← List.countP_eq_length_filter]
      calc
        _ = (rows.zipIdx 1).countP (isFull ∘ Prod.fst) := by
          apply List.countP_congr
          intro numbered _
          by_cases full : numbered.1.length = headers.length <;> simp [full, isFull]
        _ = ((rows.zipIdx 1).map Prod.fst).countP isFull := List.countP_map.symm
        _ = rows.countP isFull := by rw [List.zipIdx_map_fst]
  | heading level text => rfl
  | code language content => rfl
  | list items => rfl

theorem Block.length_flatMap_rowFixtures (body : List Block) :
    (body.flatMap (Block.rowFixtures frontMatter sourceDir)).length =
      (body.flatMap Block.fullRows).length := by
  induction body with
  | nil => rfl
  | cons block rest induction =>
      rw [List.flatMap_cons, List.flatMap_cons, List.length_append, List.length_append,
        length_rowFixtures, induction]

theorem CommandBlock.length_fixture? (name : String) (overrides : Overrides) (body : List Block) :
    (fixture? name frontMatter sourceDir overrides body).toList.length =
      [(name, body)].countP (runs frontMatter) := by
  rw [Declaration.commandFixture?_eq, List.countP_singleton, runs]
  cases body.findSome? (Block.command? frontMatter) with
  | none => simp
  | some code =>
      rw [Option.bind_some, Declaration.ofCommandCode?, Option.any_some]
      cases name.isEmpty <;> cases Text.isBlankText code.2 <;> rfl

theorem StandaloneBlock.length_finish (waiting : Option StandaloneBlock)
    (validations : List String) :
    (fixtures.finish frontMatter sourceDir waiting validations).length =
      waiting.toList.countP fun code => !Text.isBlankText code.code := by
  cases waiting with
  | none => rfl
  | some code =>
      rw [fixtures.finish, Option.bind_some, fixture?, Option.toList_some, List.countP_singleton]
      cases Text.isBlankText code.code <;> rfl

theorem StandaloneBlock.length_fixtures (title : Option String) (waiting : Option StandaloneBlock)
    (body : List Block) :
    (fixtures title frontMatter sourceDir waiting body).length =
      (waiting.toList.countP fun code => !Text.isBlankText code.code)
        + (body.flatMap Block.fullRows).length
        + (body.filterMap Block.standalone?).countP fun code => !Text.isBlankText code.2 := by
  induction body generalizing waiting with
  | nil => exact length_finish waiting []
  | cons block rest induction =>
      rw [List.flatMap_cons, List.length_append]
      cases block with
      | heading level text =>
          have noRows : (Block.heading level text).fullRows.length = 0 := rfl
          rw [List.filterMap_cons_none rfl, noRows, Nat.zero_add]
          exact induction waiting
      | table headers rows =>
          have tests : fixtures title frontMatter sourceDir waiting (.table headers rows :: rest) =
              (Block.table headers rows).rowFixtures frontMatter sourceDir
                ++ fixtures title frontMatter sourceDir waiting rest := rfl
          rw [tests, List.length_append, Block.length_rowFixtures, induction,
            List.filterMap_cons_none rfl]
          omega
      | list items =>
          have noRows : (Block.list items).fullRows.length = 0 := rfl
          rw [List.filterMap_cons_none rfl, noRows, Nat.zero_add, fixtures]
          cases Block.validations? (.list items) with
          | none => exact induction waiting
          | some validations =>
              have next := induction none
              rw [Option.toList_none, List.countP_nil] at next
              dsimp only
              rw [List.length_append, length_finish, next]
              omega
      | code language content =>
          have noRows : (Block.code language content).fullRows.length = 0 := rfl
          rw [noRows, Nat.zero_add, fixtures]
          split
          · next isStandalone =>
              have found : Block.standalone? (.code language content) = some (language, content) :=
                if_pos isStandalone
              rw [List.length_append, length_finish, induction, List.filterMap_cons_some found,
                List.countP_cons, Option.toList_some, List.countP_singleton]
              dsimp only
              omega
          · next notStandalone =>
              have none : Block.standalone? (.code language content) = none := if_neg notStandalone
              rw [List.filterMap_cons_none none]
              exact induction waiting

theorem Segment.length_fixtures {segment : Segment} {tests : List Fixture}
    (found : segment.fixtures frontMatter sourceDir = .ok tests) :
    tests.length = (segment.body.flatMap Block.fullRows).length
      + segment.commands.countP (CommandBlock.runs frontMatter)
      + segment.looseCode.countP fun code => !Text.isBlankText code.2 := by
  rw [fixtures] at found
  rw [commands, looseCode]
  cases isCommand : segment.commandName? with
  | none =>
      rw [isCommand] at found
      cases found
      rw [StandaloneBlock.length_fixtures]
      simp
  | some name =>
      rw [isCommand] at found
      dsimp only at found
      rw [CommandBlock.fixtures] at found
      cases read : CommandBlock.overrides segment.body with
      | error fault =>
          rw [read] at found
          cases found
      | ok overrides =>
          rw [read] at found
          cases found
          rw [List.length_append, Block.length_flatMap_rowFixtures, CommandBlock.length_fixture?]
          rfl

/-! ## Documents -/

namespace Document

theorem fullRows_segment (segment : Segment) :
    segment.blocks.flatMap Block.fullRows = segment.body.flatMap Block.fullRows := by
  rw [Segment.blocks, List.flatMap_append]
  cases segment.heading <;> rfl

theorem commands_plain {body : List Block} (plain : ∀ block ∈ body, block.isPlain = true)
    (rest : List Block) : commands (body ++ rest) = commands rest := by
  induction body with
  | nil => rfl
  | cons block after induction =>
      rcases List.forall_mem_cons.mp plain with ⟨isPlain, others⟩
      cases block with
      | heading level text => cases isPlain
      | code language content => exact induction others
      | list items => exact induction others
      | table headers rows => exact induction others

theorem looseCode_cons {block : Block} (isPlain : block.isPlain = true) (inCommand : Bool)
    (rest : List Block) :
    looseCode inCommand (block :: rest) =
      (if inCommand then [] else block.standalone?.toList) ++ looseCode inCommand rest := by
  cases block with
  | heading level text => cases isPlain
  | code language content => cases inCommand <;> rfl
  | list items => cases inCommand <;> rfl
  | table headers rows => cases inCommand <;> rfl

theorem looseCode_plain {body : List Block} (plain : ∀ block ∈ body, block.isPlain = true)
    (inCommand : Bool) (rest : List Block) :
    looseCode inCommand (body ++ rest) =
      (if inCommand then [] else body.filterMap Block.standalone?) ++ looseCode inCommand rest := by
  induction body with
  | nil => cases inCommand <;> rfl
  | cons block after induction =>
      rcases List.forall_mem_cons.mp plain with ⟨isPlain, others⟩
      rw [List.cons_append, looseCode_cons isPlain, induction others, List.filterMap_cons]
      cases inCommand <;> cases block.standalone? <;> rfl

theorem commands_segment {segment : Segment}
    (plain : ∀ block ∈ segment.body, block.isPlain = true) {rest : List Block}
    (begins : BeginsWithHeading rest) :
    commands (segment.blocks ++ rest) = segment.commands ++ commands rest := by
  rcases segment with ⟨heading, body⟩
  cases heading with
  | none => exact commands_plain plain rest
  | some heading =>
      have within : (body ++ rest).takeWhile Block.isPlain = body := by
        rw [List.takeWhile_append_of_pos plain]
        rcases begins with rfl | ⟨level, text, rest, rfl⟩ <;> exact List.append_nil body
      change commands (.heading heading.level heading.text :: (body ++ rest)) = _
      rw [commands, commands_plain plain, within, Segment.commands, Segment.commandName?,
        Option.bind_some]
      cases CommandBlock.name? heading <;> rfl

theorem looseCode_segment {segment : Segment}
    (plain : ∀ block ∈ segment.body, block.isPlain = true) {rest : List Block}
    (begins : BeginsWithHeading rest) :
    looseCode false (segment.blocks ++ rest) = segment.looseCode ++ looseCode false rest := by
  rcases segment with ⟨heading, body⟩
  cases heading with
  | none => exact looseCode_plain plain false rest
  | some heading =>
      have anew (inCommand : Bool) : looseCode inCommand rest = looseCode false rest := by
        rcases begins with rfl | ⟨level, text, rest, rfl⟩ <;> cases inCommand <;> rfl
      change looseCode false (.heading heading.level heading.text :: (body ++ rest)) = _
      rw [looseCode, looseCode_plain plain, anew]
      rfl

theorem length_fixturesOf {segments : List Segment} (series : Segment.Series segments)
    {tests : List Fixture} (found : fixturesOf frontMatter sourceDir segments = .ok tests) :
    tests.length = ((segments.flatMap Segment.blocks).flatMap Block.fullRows).length
      + (commands (segments.flatMap Segment.blocks)).countP (CommandBlock.runs frontMatter)
      + (looseCode false (segments.flatMap Segment.blocks)).countP fun code =>
          !Text.isBlankText code.2 := by
  induction series generalizing tests with
  | nil =>
      cases found
      rfl
  | cons plain begins _ induction =>
      rcases exists_of_fixturesOf_cons found with ⟨first, others, own, later, rfl⟩
      rw [List.flatMap_cons, List.flatMap_append, fullRows_segment, commands_segment plain begins,
        looseCode_segment plain begins, List.countP_append, List.countP_append,
        List.length_append, List.length_append, Segment.length_fixtures own, induction later]
      omega

/-- Each full row of a table is a test, each command with a name and with code that is not blank,
and all other code of a standalone language that is not blank. There are no other tests. -/
theorem testCount_ofBlocks {name : String} {blocks : List Block} {root : Node}
    (read : ofBlocks name blocks frontMatter sourceDir = .ok root) :
    root.testCount = (blocks.flatMap Block.fullRows).length
      + (commands blocks).countP (CommandBlock.runs frontMatter)
      + (looseCode false blocks).countP fun code => !Text.isBlankText code.2 := by
  rcases fixtures_of_ofBlocks read with ⟨tests, found, payloads⟩
  have count := congrArg List.length payloads
  rw [Node.payloads, List.length_map, List.length_map] at count
  rw [fixtures_eq] at found
  have total := length_fixturesOf (Segment.series_all blocks) found
  rw [Segment.flatMap_blocks_all] at total
  exact count.trans total

theorem testCount_ofBlocks_of_command :
    ∃ root, ofBlocks "a.md"
        [.code "sh" "true", .heading 1 "command: go", .code "python" "pass", .code "bash" "true",
          .table ["Name"] [["x"], ["y", "z"]], .heading 1 "command:", .code "bash" "true"] {}
        "" = .ok root ∧ root.testCount = 3 := by
  have read : ofBlocks "a.md"
      [.code "sh" "true", .heading 1 "command: go", .code "python" "pass", .code "bash" "true",
        .table ["Name"] [["x"], ["y", "z"]], .heading 1 "command:", .code "bash" "true"] {}
      "" = .ok _ := rfl
  refine ⟨_, read, ?_⟩
  rw [testCount_ofBlocks read]
  decide

end Document

end

end LiterateTest
