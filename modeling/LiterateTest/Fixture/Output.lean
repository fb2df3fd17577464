import LiterateTest.Duration
import LiterateTest.Json.Printer
import LiterateTest.Json.Reader

/-! What running a fixture gives: the output of its process, the files it wrote, and the result
that is reported. -/

namespace LiterateTest

inductive Status where
  | pass | fail | error | skip
  deriving DecidableEq, Repr

def Status.name : Status → String
  | pass => "pass"
  | fail => "fail"
  | error => "error"
  | skip => "skip"

structure TestResult where
  name : String
  status : Status
  command : String := ""
  stdout : String := ""
  stderr : String := ""
  exitCode : Option Int := none
  duration : Duration := .zero
  /-- Why the test did not pass; empty if it did. -/
  message : String := ""
  deriving DecidableEq, Repr

namespace TestResult

def ofPass (name : String) : TestResult := { name, status := .pass }

def ofFail (name message : String) : TestResult := { name, status := .fail, message }

def ofError (name message : String) : TestResult := { name, status := .error, message }

def ofSkip (name message : String) : TestResult := { name, status := .skip, message }

def passed (result : TestResult) : Bool := result.status == .pass

end TestResult

/-! ## Files -/

def Json.readLike? (text : String) : Option Json :=
  let start := Text.trimStart text
  match Text.firstChar? start with
  | some '\x7b' => Json.read? start
  | some '[' => Json.read? start
  | _ => none

structure TempFile where
  name : String
  path : String
  content : String
  /-- The extension with its dot. -/
  extension : String
  /-- The format, by the content if it is JSON, and by the extension otherwise. -/
  detected : String
  json : Option Json

namespace TempFile

def formatOf (extension : String) : String :=
  match Text.lowerAscii extension with
  | ".json" => "json"
  | ".yaml" => "yaml"
  | ".yml" => "yaml"
  | ".toml" => "toml"
  | ".md" => "markdown"
  | ".markdown" => "markdown"
  | _ => "text"

def ofContent (name path extension content : String) : TempFile :=
  let json := Json.readLike? content
  { name, path, content, extension, json
    detected := if json.isSome then "json" else formatOf extension }

def binding (file : TempFile) : Json :=
  .map <| Record.ofList <|
    [("path", Json.string file.path), ("content", .string file.content),
      ("ext", .string file.extension), ("detected", .string file.detected)]
      ++ (file.json.map fun json => ("json", json)).toList

end TempFile

structure ProcessOutput where
  command : String := ""
  stdout : String := ""
  stderr : String := ""
  /-- `-1` for a process that a signal ended. -/
  exitCode : Int := 0
  duration : Duration := .zero
  tempFiles : List TempFile := []

end LiterateTest
