import LiterateTest.Duration
import LiterateTest.Fault
import LiterateTest.Record
import LiterateTest.Yaml.Printer

/-! Front matter: what a document sets for all of its tests, in YAML between two lines of three
hyphens, and what a single command sets for itself. -/

namespace LiterateTest

def Duration.readOrFault (text : String) : Except Fault Duration :=
  match Duration.read text with
  | .ok duration => .ok duration
  | .error .invalid => .error (.invalidDuration text)
  | .error .outOfRange => .error .durationOutOfRange

structure FrontMatter where
  /-- A command that is run once before all tests. -/
  build : String := ""
  /-- The command of table rows without one. -/
  exec : String := ""
  env : Record String := []
  /-- The languages whose code blocks may be the command of a command block. -/
  codeBlocks : List String := ["bash"]
  /-- A glob pattern; each test is copied for each file it matches. -/
  files : String := ""
  cwd : String := ""
  deriving DecidableEq, Repr

/-- What a block of front matter inside a command block sets for this command. -/
structure Overrides where
  cwd : Option String := none
  exitCode : Option Int := none
  env : Record String := []
  timeout : Option Duration := none
  /-- Files the command writes, under the names validations know them by. -/
  tempFiles : Record String := []
  deriving DecidableEq, Repr

/-! ## Values of fields -/

namespace Yaml

def Value.envText : Value → String
  | .null => ""
  | .bool value => toString value
  | .int value => toString value
  | .float value => floatText value
  | .string text => text
  | value => Text.trimEnd value.render

namespace Node

def env? (node : Node) : Option (Record String) :=
  (node.optional? (textRecord? fun value => value.value?.map Value.envText)).map fun entries =>
    Record.ofList (entries.getD [])

def orMalformed (value : Option α) : Except Fault α :=
  match value with
  | some found => .ok found
  | none => .error .malformedYaml

def timeout (node : Node) : Except Fault (Option Duration) :=
  if node.isMissing then .ok none
  else
    match node.value? with
    | some .null => .ok none
    | some (.int value) => seconds (Double.ofInt value)
    | some (.float value) => seconds value
    | some (.string text) =>
        match Duration.read text with
        | .ok duration => .ok (some duration)
        | .error .invalid => .error .malformedYaml
        | .error .outOfRange => .error .durationOutOfRange
    | _ => .error .malformedYaml
where
  seconds (value : Float) : Except Fault (Option Duration) :=
    if !value.isFinite || value < 0 then .error .malformedYaml
    else
      match Duration.ofFloat? value with
      | some duration => .ok (some duration)
      | none => .error .durationOutOfRange

end Node

end Yaml

open Yaml (Node)
open Yaml.Node (orMalformed)

/-! ## Reading -/

section

variable {Matter : Type} (known : List String)
  (set : Matter → String × Node → Except Fault Matter)

/-- Sets a field from an entry. Known names stand at most once, and unknown ones do not matter; the
known names so far are kept beside what is set. -/
def enterField (state : List String × Matter) (entry : Node × Node) :
    Except Fault (List String × Matter) := do
  let name ← orMalformed entry.1.text?
  if !known.contains name then .ok state
  else if state.1.contains name then .error .malformedYaml
  else (set state.2 (name, entry.2)).map fun matter => (name :: state.1, matter)

/-- Reads front matter from YAML. The fields are set while the text is read, so that a field counts even
if the text is malformed behind it. -/
def readFields (default : Matter) (yaml : String) : Except Fault Matter :=
  if Text.isBlankText yaml then .ok default
  else do
    let reading := Yaml.Reading.ofText yaml
    let (_, matter) ← reading.entries.foldlM (enterField known set) ([], default)
    if reading.isWhole then .ok matter else .error .malformedYaml

end

namespace FrontMatter

def fieldNames : List String := ["build", "exec", "env", "codeBlocks", "files", "cwd"]

def setField (frontMatter : FrontMatter) : String × Node → Except Fault FrontMatter
  | ("build", node) => (orMalformed node.text?).map ({ frontMatter with build := · })
  | ("exec", node) => (orMalformed node.text?).map ({ frontMatter with exec := · })
  | ("env", node) => (orMalformed node.env?).map ({ frontMatter with env := · })
  | ("codeBlocks", node) => (orMalformed node.texts?).map ({ frontMatter with codeBlocks := · })
  | ("files", node) => (orMalformed node.text?).map ({ frontMatter with files := · })
  | ("cwd", node) => (orMalformed node.text?).map ({ frontMatter with cwd := · })
  | _ => .ok frontMatter

def ofYaml (yaml : String) : Except Fault FrontMatter := readFields fieldNames setField {} yaml

def allowsLanguage (frontMatter : FrontMatter) (language : String) : Bool :=
  frontMatter.codeBlocks.any fun allowed => Text.equalIgnoringCase allowed language

end FrontMatter

namespace Overrides

def fieldNames : List String := ["cwd", "exitCode", "env", "timeout", "tempFiles"]

def setField (overrides : Overrides) : String × Node → Except Fault Overrides
  | ("cwd", node) =>
      (orMalformed (node.optional? Node.text?)).map ({ overrides with cwd := · })
  | ("exitCode", node) =>
      (orMalformed (node.optional? Node.int32?)).map ({ overrides with exitCode := · })
  | ("env", node) => (orMalformed node.env?).map ({ overrides with env := · })
  | ("timeout", node) => node.timeout.map ({ overrides with timeout := · })
  | ("tempFiles", node) =>
      (orMalformed (node.textRecord? Node.text?)).map fun entries =>
        { overrides with tempFiles := Record.ofList entries }
  | _ => .ok overrides

def ofYaml (yaml : String) : Except Fault Overrides := readFields fieldNames setField {} yaml

def merge (current next : Overrides) : Overrides where
  cwd := next.cwd.orElse fun _ => current.cwd
  exitCode := next.exitCode.orElse fun _ => current.exitCode
  env := current.env.extend next.env
  timeout := next.timeout.orElse fun _ => current.timeout
  tempFiles := current.tempFiles.extend next.tempFiles

end Overrides

/-! ## Splitting a document -/

inductive Division where
  | bodyOnly
  | divided (yaml body : List Char)
  | unterminated
  deriving DecidableEq, Repr

namespace Division

def isDelimiter (line : List Char) : Bool := Text.dropBlankEnd line == ['-', '-', '-']

def splitAtDelimiter? : List (List Char) → Option (List (List Char) × List (List Char))
  | [] => none
  | line :: rest =>
      if isDelimiter line then some ([], rest)
      else (splitAtDelimiter? rest).map fun (before, after) => (line :: before, after)

def ofChars (content : List Char) : Division :=
  match Text.linesWithBreaks content with
  | [] => bodyOnly
  | first :: rest =>
      if isDelimiter first then
        match splitAtDelimiter? rest with
        | some (yaml, body) => divided yaml.flatten body.flatten
        | none => unterminated
      else bodyOnly

end Division

def dropByteOrderMark : List Char → List Char
  | '\ufeff' :: rest => rest
  | content => content

def FrontMatter.split (content path : String) : Except Fault (FrontMatter × String) :=
  let chars := dropByteOrderMark content.toList
  match Division.ofChars chars with
  | .bodyOnly => .ok ({}, String.ofList chars)
  | .unterminated => .error (.unterminatedFrontMatter path)
  | .divided yaml body => do
      let frontMatter ← FrontMatter.ofYaml (String.ofList yaml)
      .ok (frontMatter, String.ofList body)

end LiterateTest
