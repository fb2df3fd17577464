import LiterateTest.Document.FrontMatter
import LiterateTest.Document.Language

/-! Fixtures: single tests, with what is run and what is expected of it. -/

namespace LiterateTest

structure Expectations where
  /-- Missing means 0. -/
  exitCode : Option Int := none
  stdout : String := ""
  stderr : String := ""
  /-- An expression over the outcome; empty where there is none. -/
  expression : String := ""
  count : Option Int := none
  format : String := ""
  /-- A text that the error output has to contain. -/
  error : String := ""
  /-- Table columns without a meaning of their own, under their headers. -/
  properties : Record String := []
  deriving DecidableEq, Repr

namespace Expectations

def requiredExitCode (expected : Expectations) : Int := expected.exitCode.getD 0

def pushExpression (expected : Expectations) (expression : String) : Expectations :=
  if expression.isEmpty then expected
  else if expected.expression.isEmpty then { expected with expression := expression }
  else { expected with expression := expected.expression ++ " && " ++ expression }

end Expectations

structure Fixture where
  name : String := ""
  exec : String := ""
  args : List String := []
  cwd : String := ""
  env : Record String := []
  query : String := ""
  expected : Expectations := {}
  timeout : Option Duration := none
  tempFiles : Record String := []
  frontMatter : FrontMatter := {}
  templateVars : Record String := []
  sourceDir : String := ""
  deriving DecidableEq, Repr

namespace Fixture

def inDocument (name : String) (frontMatter : FrontMatter) (sourceDir : String) : Fixture where
  name
  cwd := frontMatter.cwd
  env := frontMatter.env
  frontMatter
  sourceDir

def hasExec (fixture : Fixture) : Bool := !Text.isBlankText fixture.exec

def hasQuery (fixture : Fixture) : Bool := !Text.isBlankText fixture.query

end Fixture

/-! ## Templates -/

namespace Template

def placeholder (key : String) : String := "\x7b\x7b" ++ key ++ "\x7d\x7d"

/-- Replaces the placeholders of each variable, one variable after the other in the order of
their keys. -/
def render (text : String) (vars : Record String) : String :=
  vars.foldl (fun rendered (key, value) => Text.replace rendered (placeholder key) value) text

example : render "\x7b\x7ba\x7d\x7d-\x7b\x7bb\x7d\x7d" [("a", "x")] = "x-\x7b\x7bb\x7d\x7d" := by
  decide

end Template

namespace Fixture

def render (fixture : Fixture) (text : String) : String :=
  Template.render text fixture.templateVars

end Fixture

/-! ## Command lines -/

namespace CommandLine

def needsQuotes (argument : List Char) : Bool :=
  argument.isEmpty || argument.any fun c =>
    Text.isBlank c || ['\'', '"', '$', '\x60', '\\', '|', '&', ';', '<', '>', '(', ')', '*',
      '?'].contains c

/-- A quote inside quotes ends them, stands behind a backslash, and opens them again. -/
def quoteChar (c : Char) : List Char :=
  if c = '\'' then ['\'', '\\', '\'', '\''] else [c]

def quoteArgument (argument : List Char) : List Char :=
  if needsQuotes argument then '\'' :: argument.flatMap quoteChar ++ ['\''] else argument

def render (command : Command) : String :=
  Text.joinWith " " <| (command.program :: command.arguments).map fun part =>
    String.ofList (quoteArgument part.toList)

end CommandLine

namespace Fixture

def command (fixture : Fixture) : Command := ⟨fixture.exec, fixture.args⟩

def commandLine (fixture : Fixture) : String := CommandLine.render fixture.command

end Fixture

end LiterateTest
