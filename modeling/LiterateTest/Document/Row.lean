import LiterateTest.Document.Validation
import LiterateTest.Fixture.Basic

/-! Table rows as fixtures. The header of a column says which part of the fixture its cells
give. -/

namespace LiterateTest

inductive Column where
  | name | cwd | query | exec | args | exitCode | count | output | format | error | expression
  /-- A column under any other header. -/
  | property (key : String)
  deriving DecidableEq, Repr

namespace Column

def ofHeader (header : String) : Column :=
  let trimmed := Text.trim header
  match Text.lowerAscii trimmed with
  | "test name" | "name" => name
  | "cwd" | "working directory" | "dir" => cwd
  | "query" => query
  | "cli" | "command" | "exec" => exec
  | "cli args" | "args" | "arguments" => args
  | "exit code" | "exitcode" | "expected exit code" => exitCode
  | "expected count" | "count" => count
  | "expected output" | "output" | "expected matches" | "matches" | "expected results"
  | "results" | "expected files" | "files" | "template output" => output
  | "expected format" | "format" => format
  | "expected error" | "error" => error
  | "cel validation" | "cel" | "validation" | "expr" => expression
  | _ => property trimmed

end Column

/-- A row being read: the fixture so far, the command line it runs, and further arguments. -/
structure RowState where
  fixture : Fixture
  execLine : String
  extraArgs : List String := []

namespace RowState

def updateExpected (state : RowState) (update : Expectations → Expectations) : RowState :=
  { state with fixture := { state.fixture with expected := update state.fixture.expected } }

def addProperty (state : RowState) (key value : String) : RowState :=
  state.updateExpected fun expected =>
    { expected with properties := expected.properties.insert key value }

/-- Enters a cell. A number that is none is kept as a property. -/
def enter (state : RowState) (header cell : String) : RowState :=
  let value := Text.trim cell
  match Column.ofHeader header with
  | .name =>
      if value.isEmpty then state
      else { state with fixture := { state.fixture with name := value } }
  | .cwd => { state with fixture := { state.fixture with cwd := value } }
  | .query => { state with fixture := { state.fixture with query := value } }
  | .exec => if value.isEmpty then state else { state with execLine := value }
  | .args => { state with extraArgs := state.extraArgs ++ Text.words value }
  | .exitCode =>
      if value.isEmpty then state
      else
        match Integer.readInt32? value with
        | some code => state.updateExpected ({ · with exitCode := some code })
        | none => state.addProperty (Text.trim header) value
  | .count =>
      if value.isEmpty then state
      else
        match Integer.readInt64? value with
        | some count => state.updateExpected ({ · with count := some count })
        | none => state.addProperty (Text.trim header) value
  | .output => state.updateExpected ({ · with stdout := value })
  | .format => state.updateExpected ({ · with format := value })
  | .error => state.updateExpected ({ · with error := value })
  | .expression =>
      if value.isEmpty then state
      else state.updateExpected (·.pushExpression (Validation.compileItem value))
  | .property key => state.addProperty key value

def finish (state : RowState) : Fixture :=
  let words := Text.words state.execLine
  { state.fixture with exec := words.headD "", args := words.drop 1 ++ state.extraArgs }

end RowState

def Fixture.ofRow (headers cells : List String) (rowNumber : Nat) (frontMatter : FrontMatter)
    (sourceDir : String) : Fixture :=
  let start : RowState :=
    { fixture := .inDocument ("row " ++ toString rowNumber) frontMatter sourceDir
      execLine := frontMatter.exec }
  ((headers.zip cells).foldl (fun state (header, cell) => state.enter header cell) start).finish

end LiterateTest
