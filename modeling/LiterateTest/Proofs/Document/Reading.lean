import LiterateTest.Document.Reader
import LiterateTest.Proofs.Each

/-! Documents by their segments: a heading with the blocks up to the next one, and the tests that
they declare. Reading a document block by block gives what its segments give one after the other. -/

namespace LiterateTest

/-! ## Segments -/

structure Segment where
  /-- Missing for the blocks in front of the first heading. -/
  heading : Option Heading := none
  /-- The blocks below the heading, none of which is a heading. -/
  body : List Block := []
  deriving DecidableEq, Repr

namespace Segment

def ofBlocks : List Block → Segment × List Segment
  | [] => ({}, [])
  | .heading level text :: rest =>
      let (first, others) := ofBlocks rest
      ({}, { first with heading := some ⟨level, text⟩ } :: others)
  | block :: rest =>
      let (first, others) := ofBlocks rest
      ({ first with body := block :: first.body }, others)

theorem heading_first (blocks : List Block) : (ofBlocks blocks).1.heading = none := by
  induction blocks with
  | nil => rfl
  | cons block rest induction =>
      cases block with
      | heading level text => rfl
      | code language content => exact induction
      | list items => exact induction
      | table headers rows => exact induction

end Segment

/-! ### Commands -/

def Block.fence? : Block → Option (String × String)
  | code language content => some (language, content)
  | _ => none

namespace CommandBlock

def overrides (body : List Block) : Except Fault Overrides := do
  let fences := (body.filterMap Block.fence?).filter fun (language, _) =>
    Language.isFrontMatter language
  let all ← fences.mapM fun (_, yaml) => Overrides.ofYaml yaml
  return all.foldl Overrides.merge {}

def chosen? (frontMatter : FrontMatter) (body : List Block) : Option (String × String) :=
  (body.filterMap Block.fence?).find? fun (language, _) =>
    !Language.isFrontMatter language && frontMatter.allowsLanguage language

def validations (body : List Block) : List String :=
  (body.filterMap Block.validations?).flatten

def fixture? (name : String) (frontMatter : FrontMatter) (sourceDir : String)
    (overrides : Overrides) (body : List Block) : Option Fixture :=
  match chosen? frontMatter body with
  | none => none
  | some (language, code) =>
      if name.isEmpty || Text.isBlankText code then none
      else
        some (fixture name frontMatter sourceDir overrides (Language.command language code)
          (validations body))

def fixtures (name : String) (frontMatter : FrontMatter) (sourceDir : String)
    (body : List Block) : Except Fault (List Fixture) := do
  let overrides ← overrides body
  return body.flatMap (Block.rowFixtures frontMatter sourceDir)
    ++ (fixture? name frontMatter sourceDir overrides body).toList

end CommandBlock

/-! ### Standalone code -/

namespace StandaloneBlock

/-- The tests of the blocks, with the code block that waits so far. It is a test of its own as
soon as its validations, another such block or the end of the segment are met. -/
def fixtures (title : Option String) (frontMatter : FrontMatter) (sourceDir : String) :
    (waiting : Option StandaloneBlock) → List Block → List Fixture
  | waiting, [] => finish waiting []
  | waiting, block :: rest =>
      match block with
      | .code language code =>
          if Language.isStandalone language then
            let next : StandaloneBlock :=
              { name := title.getD (language ++ "-block"), language, code }
            finish waiting [] ++ fixtures title frontMatter sourceDir (some next) rest
          else fixtures title frontMatter sourceDir waiting rest
      | .list items =>
          match Block.validations? (.list items) with
          | some validations =>
              finish waiting validations ++ fixtures title frontMatter sourceDir none rest
          | none => fixtures title frontMatter sourceDir waiting rest
      | other =>
          other.rowFixtures frontMatter sourceDir
            ++ fixtures title frontMatter sourceDir waiting rest
where
  finish (waiting : Option StandaloneBlock) (validations : List String) : List Fixture :=
    (waiting.bind fun block => block.fixture? frontMatter sourceDir validations).toList

end StandaloneBlock

/-! ### Tests of segments -/

namespace Segment

def commandName? (segment : Segment) : Option String :=
  segment.heading.bind CommandBlock.name?

def fixtures (segment : Segment) (frontMatter : FrontMatter) (sourceDir : String) :
    Except Fault (List Fixture) :=
  match segment.commandName? with
  | some name => CommandBlock.fixtures name frontMatter sourceDir segment.body
  | none =>
      .ok (StandaloneBlock.fixtures (segment.heading.map Heading.text) frontMatter sourceDir none
        segment.body)

end Segment

def OpenTree.addSegment (tree : OpenTree) (segment : Segment) (fixtures : List Fixture) :
    OpenTree :=
  let inside :=
    match segment.commandName?, segment.heading with
    | none, some heading => tree.enter heading
    | _, _ => tree
  (fixtures.map Node.ofTest).foldl add inside

def Document.segments (blocks : List Block) (frontMatter : FrontMatter) (sourceDir : String) :
    Except Fault (List (Segment × List Fixture)) :=
  let (first, others) := Segment.ofBlocks blocks
  (first :: others).mapM fun segment => do
    let fixtures ← segment.fixtures frontMatter sourceDir
    return (segment, fixtures)

/-! ## What is still to come in a segment -/

namespace CommandBuilder

def complete (frontMatter : FrontMatter) (command : CommandBuilder) (body : List Block) :
    Except Fault CommandBuilder := do
  let fences := (body.filterMap Block.fence?).filter fun (language, _) =>
    Language.isFrontMatter language
  let all ← fences.mapM fun (_, yaml) => Overrides.ofYaml yaml
  return { command with
    code := command.code.or (CommandBlock.chosen? frontMatter body)
    overrides := all.foldl Overrides.merge command.overrides
    validations := command.validations ++ CommandBlock.validations body }

variable (frontMatter : FrontMatter) (command : CommandBuilder) (body : List Block)

theorem complete_nil : command.complete frontMatter [] = .ok command := by
  rcases command with ⟨name, code, overrides, validations⟩
  change Except.ok (CommandBuilder.mk name (code.or none) overrides (validations ++ [])) = _
  rw [Option.or_none, List.append_nil]

theorem complete_code (language content : String) :
    command.complete frontMatter (.code language content :: body) =
      command.addCode frontMatter language content >>= fun added =>
        added.complete frontMatter body := by
  rcases command with ⟨name, code, overrides, validations⟩
  simp only [complete, addCode, CommandBlock.chosen?, CommandBlock.validations,
    List.filterMap_cons, Block.fence?, Block.validations?, List.filter_cons, List.find?_cons]
  cases Language.isFrontMatter language with
  | true =>
      rw [if_pos rfl, if_pos rfl, List.mapM_cons]
      cases Overrides.ofYaml content with
      | error fault => rfl
      | ok next =>
          generalize List.mapM (m := Except Fault) _ _ = later
          cases later <;> rfl
  | false =>
      rw [if_neg Bool.false_ne_true, if_neg Bool.false_ne_true]
      cases frontMatter.allowsLanguage language with
      | true => cases code <;> rfl
      | false => rfl

theorem complete_list (items : List String) :
    command.complete frontMatter (.list items :: body) =
      complete frontMatter
        { command with
          validations := command.validations ++ (Block.validations? (.list items)).getD [] }
        body := by
  simp only [complete, CommandBlock.chosen?, CommandBlock.validations, List.filterMap_cons,
    Block.fence?]
  cases Block.validations? (.list items) <;> simp

theorem complete_table (headers : List String) (rows : List (List String)) :
    command.complete frontMatter (.table headers rows :: body) =
      command.complete frontMatter body := rfl

end CommandBuilder

namespace DocumentReader

theorem attach_append (reader : DocumentReader) (first second : List Fixture) :
    reader.attach (first ++ second) = (reader.attach first).attach second := by
  simp only [attach, List.map_append, List.foldl_append]

section

variable (frontMatter : FrontMatter) (sourceDir : String) (reader : DocumentReader)

/-- The tests that are still to come, if some blocks are still to come in the segment. -/
def pending (body : List Block) : Except Fault (List Fixture) :=
  match reader.command with
  | some command =>
      (command.complete frontMatter body).map fun command =>
        body.flatMap (Block.rowFixtures frontMatter sourceDir)
          ++ ((command.fixture? frontMatter sourceDir).toList
            ++ StandaloneBlock.fixtures.finish frontMatter sourceDir reader.standalone [])
  | none =>
      .ok (StandaloneBlock.fixtures reader.lastHeading frontMatter sourceDir reader.standalone body)

/-- The tree at the end of the segment. -/
def settle (body : List Block) : Except Fault OpenTree :=
  (reader.pending frontMatter sourceDir body).map fun fixtures => (reader.attach fixtures).tree

theorem settle_nil :
    reader.settle frontMatter sourceDir [] = .ok (reader.flush frontMatter sourceDir).tree := by
  rcases reader with ⟨tree, command, standalone, lastHeading⟩
  cases command with
  | none => rfl
  | some command =>
      rw [settle, pending]
      dsimp only
      rw [CommandBuilder.complete_nil]
      change Except.ok (attach _ ([] ++ (_ ++ _))).tree = _
      rw [List.nil_append, attach_append]
      rfl

theorem settle_code (language content : String) (body : List Block) :
    reader.settle frontMatter sourceDir (.code language content :: body) =
      reader.code frontMatter sourceDir language content >>= fun next =>
        next.settle frontMatter sourceDir body := by
  rcases reader with ⟨tree, command, standalone, lastHeading⟩
  cases command with
  | none =>
      rw [settle, pending, code]
      dsimp only
      rw [StandaloneBlock.fixtures]
      cases Language.isStandalone language with
      | true =>
          rw [if_pos rfl, if_pos rfl]
          change Except.ok (attach _ (_ ++ _)).tree = _
          rw [attach_append]
          rfl
      | false => rfl
  | some command =>
      rw [settle, pending, code]
      dsimp only
      rw [CommandBuilder.complete_code]
      cases command.addCode frontMatter language content <;> rfl

theorem settle_list (items : List String) (body : List Block) :
    reader.settle frontMatter sourceDir (.list items :: body) =
      (reader.list frontMatter sourceDir items).settle frontMatter sourceDir body := by
  rcases reader with ⟨tree, command, standalone, lastHeading⟩
  rw [settle, pending, list]
  cases command with
  | none =>
      dsimp only
      rw [StandaloneBlock.fixtures]
      cases Block.validations? (.list items) with
      | none => rfl
      | some validations =>
          change Except.ok (attach _ (_ ++ _)).tree = _
          rw [attach_append]
          rfl
  | some command =>
      dsimp only
      rw [CommandBuilder.complete_list]
      cases Block.validations? (.list items) with
      | none =>
          rw [Option.getD_none, List.append_nil]
          rfl
      | some validations => rfl

theorem settle_table (headers : List String) (rows : List (List String)) (body : List Block) :
    reader.settle frontMatter sourceDir (.table headers rows :: body) =
      (reader.attach (Block.rowFixtures frontMatter sourceDir (.table headers rows))).settle
        frontMatter sourceDir body := by
  rcases reader with ⟨tree, command, standalone, lastHeading⟩
  rw [settle, pending]
  cases command with
  | none =>
      change Except.ok (attach _ (_ ++ _)).tree = _
      rw [attach_append]
      rfl
  | some command =>
      dsimp only
      rw [CommandBuilder.complete_table, settle, pending, attach]
      dsimp only
      cases command.complete frontMatter body with
      | error fault => rfl
      | ok whole =>
          change Except.ok (attach _ ((_ ++ _) ++ _)).tree = _
          rw [List.append_assoc, attach_append]
          rfl

theorem settle_enter (heading : Heading) (body : List Block) :
    (reader.enter frontMatter sourceDir heading).settle frontMatter sourceDir body =
      (Segment.fixtures ⟨some heading, body⟩ frontMatter sourceDir).map
        ((reader.flush frontMatter sourceDir).tree.addSegment ⟨some heading, body⟩) := by
  rw [enter, Segment.fixtures, Segment.commandName?, Option.bind_some]
  cases named : CommandBlock.name? heading with
  | none =>
      change Except.ok _ = Except.ok _
      rw [OpenTree.addSegment, Segment.commandName?, Option.bind_some, named]
      rfl
  | some name =>
      rw [settle, pending]
      dsimp only
      rw [CommandBuilder.complete, CommandBlock.fixtures, CommandBlock.overrides]
      generalize List.mapM (m := Except Fault) _ _ = all
      cases all with
      | error fault => rfl
      | ok all =>
          change Except.ok (attach _ (_ ++ (_ ++ []))).tree = Except.ok (OpenTree.addSegment _ _ _)
          rw [List.append_nil, OpenTree.addSegment, Segment.commandName?, Option.bind_some, named]
          rfl

/-- Reading the blocks one after the other completes the segment that is open, and then adds the
segments behind it. -/
theorem foldlM_step (blocks : List Block) :
    (blocks.foldlM (step frontMatter sourceDir) reader).map
        (fun last => (last.flush frontMatter sourceDir).tree) =
      reader.settle frontMatter sourceDir (Segment.ofBlocks blocks).1.body >>= fun tree =>
        (Segment.ofBlocks blocks).2.foldlM
          (fun tree segment =>
            (segment.fixtures frontMatter sourceDir).map (tree.addSegment segment)) tree := by
  -- Any block but a heading changes what is still to come in the segment by what it does at once.
  induction blocks generalizing reader with
  | nil =>
      rw [Segment.ofBlocks, settle_nil]
      rfl
  | cons block rest induction =>
      rw [List.foldlM_cons]
      cases block with
      | heading level text =>
          change Except.map _ (rest.foldlM _ (reader.enter frontMatter sourceDir ⟨level, text⟩)) = _
          rw [induction, settle_enter]
          change _ = reader.settle frontMatter sourceDir [] >>= _
          rw [settle_nil]
          rfl
      | code language content =>
          change _ = reader.settle frontMatter sourceDir (.code language content :: _) >>= _
          rw [settle_code]
          change Except.map _ (reader.code frontMatter sourceDir language content >>= _) = _
          cases reader.code frontMatter sourceDir language content with
          | error fault => rfl
          | ok next => exact induction next
      | list items =>
          change _ = reader.settle frontMatter sourceDir (.list items :: _) >>= _
          rw [settle_list]
          exact induction _
      | table headers rows =>
          change _ = reader.settle frontMatter sourceDir (.table headers rows :: _) >>= _
          rw [settle_table]
          exact induction _

end

end DocumentReader

/-! ## Documents -/

namespace Document

variable (blocks : List Block) (frontMatter : FrontMatter) (sourceDir : String)

theorem segments_foldl :
    (segments blocks frontMatter sourceDir).map (fun parts =>
        parts.foldl (fun tree (segment, tests) => tree.addSegment segment tests) {}) =
      ((Segment.ofBlocks blocks).1 :: (Segment.ofBlocks blocks).2).foldlM
        (fun tree segment =>
          (segment.fixtures frontMatter sourceDir).map (tree.addSegment segment))
        ({} : OpenTree) := by
  rw [segments, mapM_foldl]
  congr 1
  funext tree segment
  cases segment.fixtures frontMatter sourceDir <;> rfl

theorem foldlM_step :
    (blocks.foldlM (DocumentReader.step frontMatter sourceDir) {}).map
        (fun last => (last.flush frontMatter sourceDir).tree) =
      (segments blocks frontMatter sourceDir).map fun parts =>
        parts.foldl (fun tree (segment, tests) => tree.addSegment segment tests) {} := by
  rw [DocumentReader.foldlM_step, segments_foldl, List.foldlM_cons, Segment.fixtures,
    Segment.commandName?, Segment.heading_first]
  change _ = Except.ok (OpenTree.addSegment _ _ _) >>= _
  rw [OpenTree.addSegment, Segment.commandName?, Segment.heading_first]
  rfl

/-- A document has the tree that its segments give one after the other. -/
theorem ofBlocks_eq (name : String) :
    ofBlocks name blocks frontMatter sourceDir =
      (segments blocks frontMatter sourceDir).map fun parts =>
        let tree : OpenTree :=
          parts.foldl (fun tree (segment, tests) => tree.addSegment segment tests) {}
        .ofFile name tree.finish := by
  have whole : ofBlocks name blocks frontMatter sourceDir =
      ((blocks.foldlM (DocumentReader.step frontMatter sourceDir) {}).map
        fun last => (last.flush frontMatter sourceDir).tree).map
          fun tree => .ofFile name tree.finish := by
    rw [ofBlocks]
    cases blocks.foldlM (DocumentReader.step frontMatter sourceDir) {} <;> rfl
  rw [whole, foldlM_step]
  cases segments blocks frontMatter sourceDir <;> rfl

end Document

end LiterateTest
