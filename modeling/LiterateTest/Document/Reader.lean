import LiterateTest.Document.Block
import LiterateTest.Document.Row
import LiterateTest.Document.Validation
import LiterateTest.Fixture.Basic
import LiterateTest.Tree.Node

/-! Documents as trees of tests, read block by block.

A heading that begins with `command:` begins a command, which collects its parts up to the next
heading and takes its code from the first code block in an allowed language. Elsewhere each code
block in a standalone language is a test, which the next validation list belongs to. The rows of
tables are tests in both. Other headings hold the tests behind them, and the headings behind them
that have a greater level. -/

namespace LiterateTest

structure Heading where
  level : Nat
  text : String
  deriving DecidableEq, Repr

namespace Block

def validations? : Block → Option (List String)
  | list items =>
      if Validation.isValidationList (Text.joinWith "\n" items) then some items else none
  | _ => none

def rowFixtures (frontMatter : FrontMatter) (sourceDir : String) : Block → List Fixture
  | table headers rows =>
      (rows.zipIdx 1).filterMap fun (cells, rowNumber) =>
        if cells.length = headers.length then
          some (Fixture.ofRow headers cells rowNumber frontMatter sourceDir)
        else none
  | _ => []

end Block

/-! ## Commands -/

namespace CommandBlock

def lead : String := "command:"

def name? (heading : Heading) : Option String :=
  let chars := heading.text.toList
  (Text.stripLead? lead.toList (chars.map Char.toLower)).map fun _ =>
    String.ofList (Text.trimChars (chars.drop lead.length))

example : name? ⟨2, "Command: a b"⟩ = some "a b" := by decide

def fixture (name : String) (frontMatter : FrontMatter) (sourceDir : String)
    (overrides : Overrides) (command : Command) (validations : List String) : Fixture :=
  let start := Fixture.inDocument name frontMatter sourceDir
  let expected : Expectations := { exitCode := overrides.exitCode }
  { start with
    exec := command.program
    args := command.arguments
    cwd := overrides.cwd.getD start.cwd
    env := start.env.extend overrides.env
    timeout := overrides.timeout
    tempFiles := overrides.tempFiles
    expected := expected.pushExpression (Validation.compile validations) }

end CommandBlock

structure CommandBuilder where
  name : String
  /-- The language and the content of the code. -/
  code : Option (String × String) := none
  overrides : Overrides := {}
  validations : List String := []
  deriving DecidableEq, Repr

namespace CommandBuilder

/-- Front matter is merged, and the first code in an allowed language is kept. -/
def addCode (frontMatter : FrontMatter) (command : CommandBuilder) (language content : String) :
    Except Fault CommandBuilder :=
  if Language.isFrontMatter language then
    (Overrides.ofYaml content).map fun overrides =>
      { command with overrides := command.overrides.merge overrides }
  else if frontMatter.allowsLanguage language && command.code.isNone then
    .ok { command with code := some (language, content) }
  else .ok command

def fixture? (frontMatter : FrontMatter) (sourceDir : String) (command : CommandBuilder) :
    Option Fixture :=
  match command.code with
  | none => none
  | some (language, content) =>
      if command.name.isEmpty || Text.isBlankText content then none
      else
        some (CommandBlock.fixture command.name frontMatter sourceDir command.overrides
          (Language.command language content) command.validations)

end CommandBuilder

/-! ## Standalone code -/

/-- A code block that waits for its validations. -/
structure StandaloneBlock where
  name : String
  language : String
  code : String
  deriving DecidableEq, Repr

namespace StandaloneBlock

def fixture? (block : StandaloneBlock) (frontMatter : FrontMatter) (sourceDir : String)
    (validations : List String) : Option Fixture :=
  if Text.isBlankText block.code then none
  else
    let command := Language.standaloneCommand block.language block.code
    let expected : Expectations := {}
    some
      { Fixture.inDocument block.name frontMatter sourceDir with
        exec := command.program
        args := command.arguments
        expected := expected.pushExpression (Validation.compile validations) }

end StandaloneBlock

/-! ## Nesting -/

/-- A place in a tree that grows at its end. Lists of children have the last child first. -/
structure OpenTree where
  /-- The children of the innermost heading that is open, or of the document. -/
  here : List Node := []
  /-- The headings that are open, innermost first, each with the children before it of what it
  stands in. -/
  path : List (Heading × List Node) := []

namespace OpenTree

def add (tree : OpenTree) (child : Node) : OpenTree :=
  { tree with here := child :: tree.here }

def node (heading : Heading) (children : List Node) : Node :=
  .ofHeading heading.level heading.text children.reverse

def closeFrom (ends : Heading → Bool) : (here : List Node) → List (Heading × List Node) → OpenTree
  | here, [] => { here }
  | here, (heading, before) :: outer =>
      if ends heading then closeFrom ends (node heading here :: before) outer
      else { here, path := (heading, before) :: outer }

def close (ends : Heading → Bool) (tree : OpenTree) : OpenTree :=
  closeFrom ends tree.here tree.path

/-- Opens a heading, which closes those of its own or a greater level. -/
def enter (tree : OpenTree) (heading : Heading) : OpenTree :=
  let outer := tree.close fun other => heading.level ≤ other.level
  { path := (heading, outer.here) :: outer.path }

def finish (tree : OpenTree) : List Node :=
  (tree.close fun _ => true).here.reverse

end OpenTree

/-! ## Reading -/

structure DocumentReader where
  tree : OpenTree := {}
  command : Option CommandBuilder := none
  standalone : Option StandaloneBlock := none
  /-- The text of the last heading that began no command. -/
  lastHeading : Option String := none

namespace DocumentReader

def attach (reader : DocumentReader) (fixtures : List Fixture) : DocumentReader :=
  { reader with tree := (fixtures.map Node.ofTest).foldl OpenTree.add reader.tree }

section

variable (frontMatter : FrontMatter) (sourceDir : String)

def flushCommand (reader : DocumentReader) : DocumentReader :=
  let fixture? := reader.command.bind (CommandBuilder.fixture? frontMatter sourceDir)
  { reader.attach fixture?.toList with command := none }

def flushStandalone (reader : DocumentReader) (validations : List String) : DocumentReader :=
  let fixture? := reader.standalone.bind fun block =>
    block.fixture? frontMatter sourceDir validations
  { reader.attach fixture?.toList with standalone := none }

def flush (reader : DocumentReader) : DocumentReader :=
  (reader.flushCommand frontMatter sourceDir).flushStandalone frontMatter sourceDir []

def enter (reader : DocumentReader) (heading : Heading) : DocumentReader :=
  let done := reader.flush frontMatter sourceDir
  match CommandBlock.name? heading with
  | some name => { done with command := some { name } }
  | none => { done with tree := done.tree.enter heading, lastHeading := some heading.text }

def code (reader : DocumentReader) (language content : String) :
    Except Fault DocumentReader :=
  match reader.command with
  | some command =>
      (command.addCode frontMatter language content).map fun command =>
        { reader with command := some command }
  | none =>
      if Language.isStandalone language then
        let name := reader.lastHeading.getD (language ++ "-block")
        .ok
          { reader.flushStandalone frontMatter sourceDir [] with
            standalone := some { name, language, code := content } }
      else .ok reader

/-- A list of validations belongs to the command, or completes the code that waits. -/
def list (reader : DocumentReader) (items : List String) : DocumentReader :=
  match Block.validations? (.list items), reader.command with
  | none, _ => reader
  | some validations, some command =>
      { reader with
        command := some { command with validations := command.validations ++ validations } }
  | some validations, none => reader.flushStandalone frontMatter sourceDir validations

def step (reader : DocumentReader) (block : Block) : Except Fault DocumentReader :=
  match block with
  | .heading level text => .ok (reader.enter frontMatter sourceDir ⟨level, text⟩)
  | .code language content => reader.code frontMatter sourceDir language content
  | .list items => .ok (reader.list frontMatter sourceDir items)
  | .table headers rows =>
      .ok (reader.attach (Block.rowFixtures frontMatter sourceDir (.table headers rows)))

end

end DocumentReader

/-! ## Documents -/

namespace Document

def ofBlocks (name : String) (blocks : List Block) (frontMatter : FrontMatter)
    (sourceDir : String) : Except Fault Node := do
  let reader ← blocks.foldlM (DocumentReader.step frontMatter sourceDir) {}
  return .ofFile name (reader.flush frontMatter sourceDir).tree.finish

def ofMarkdown (name body : String) (frontMatter : FrontMatter) (sourceDir : String) :
    Except Fault Node :=
  ofBlocks name (Block.ofMarkdown body) frontMatter sourceDir

def read (name content sourceDir : String) : Except Fault (FrontMatter × Node) := do
  let (frontMatter, body) ← FrontMatter.split content name
  let tree ← ofMarkdown name body frontMatter sourceDir
  return (frontMatter, tree)

end Document

end LiterateTest
