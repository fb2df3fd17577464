import LiterateTest.Expression.Program
import LiterateTest.Fixture.Basic
import LiterateTest.Fixture.Output

/-! Whether the output of a process is what its fixture expects. -/

namespace LiterateTest

/-! ## Bindings -/

namespace Fixture

def ownFields (fixture : Fixture) : List (String × Json) :=
  [("name", Json.string fixture.name), ("exec", .string fixture.exec),
    ("args", .list (fixture.args.map Json.string)), ("cwd", .string fixture.cwd),
    ("env", Json.ofStrings fixture.env)]
    ++ (if fixture.hasQuery then [("query", Json.string fixture.query)] else [])
    ++ (fixture.expected.count.map fun count => ("count", Expression.ofInteger count)).toList
    ++ (if fixture.expected.format.isEmpty then []
        else [("format", Json.string fixture.expected.format)])
    ++ (if fixture.expected.error.isEmpty then []
        else [("error", Json.string fixture.expected.error)])

def textFields (entries : Record String) : List (String × Json) :=
  entries.map fun (key, value) => (key, Json.string value)

/-- Properties, template variables and the fixture's own fields; of two under one name, the
later one counts. -/
def declaredFields (fixture : Fixture) : Record Json :=
  Record.ofList <|
    textFields fixture.expected.properties ++ textFields fixture.templateVars
      ++ fixture.ownFields

end Fixture

namespace ProcessOutput

def fileFields (actual : ProcessOutput) : List (String × Json) :=
  actual.tempFiles.map fun file => (file.name, file.binding)

def standardFields (actual : ProcessOutput) : List (String × Json) :=
  [("output", Json.string (actual.stdout ++ actual.stderr)), ("stdout", .string actual.stdout),
    ("stderr", .string actual.stderr), ("exitCode", Expression.ofInteger actual.exitCode)]
    ++ ((Json.readLike? actual.stdout).map fun json => ("json", json)).toList

end ProcessOutput

/-- All names that a validation can refer to. The names of the output win over those of files,
and these over what the fixture declares. -/
def bindings (fixture : Fixture) (actual : ProcessOutput) : Record Json :=
  (fixture.declaredFields.extend actual.fileFields).extend actual.standardFields

/-! ## Expressions -/

inductive ExpressionOutcome where
  | passed
  | failed (message : String)
  | errored (message : String)
  deriving DecidableEq, Repr

namespace ExpressionOutcome

/-- A true value passes, and so does the word in a string; a false value and any other string
fail, and a value of another type is an error. -/
def ofValue (expression : String) : Json → ExpressionOutcome
  | .bool true => passed
  | .bool false => failed ("CEL expression evaluated to false: " ++ expression)
  | .string text =>
      if Text.equalIgnoringCase (Text.trim text) "true" then passed
      else failed (text ++ " != true")
  | other =>
      errored ("expression " ++ Text.quoted expression ++ " returned " ++ other.type.name
        ++ " instead of bool")

end ExpressionOutcome

def evaluateExpression (expression : String) (names : Record Json) : ExpressionOutcome :=
  match Expression.compile (Expression.Schema.ofBindings names) expression with
  | .error fault =>
      .errored ("invalid expression " ++ Text.quoted expression ++ ": " ++ fault.message)
  | .ok program =>
      match program.run names with
      | .ok value => .ofValue expression value
      | .error fault =>
          .errored ("evaluating " ++ Text.quoted expression ++ " failed: " ++ fault.message)

/-! ## Checks -/

def exitCodeMismatch? (expected : Expectations) (actual : ProcessOutput) : Option String :=
  if actual.exitCode = expected.requiredExitCode then none
  else
    some ("expected exit code " ++ toString expected.requiredExitCode ++ ", got "
      ++ toString actual.exitCode)

/-- Texts are compared without the blanks around them; an empty expectation asks for nothing. -/
def textMismatch? (stream expected actual : String) : Option String :=
  if expected.isEmpty || Text.trim actual == Text.trim expected then none
  else
    some (stream ++ " mismatch: expected " ++ Text.quoted (Text.trim expected) ++ ", got "
      ++ Text.quoted (Text.trim actual))

def errorMismatch? (expected : Expectations) (actual : ProcessOutput) : Option String :=
  if expected.error.isEmpty || Text.contains actual.stderr expected.error then none
  else
    some ("expected stderr to contain " ++ Text.quoted expected.error ++ ", got "
      ++ Text.quoted (Text.trim actual.stderr))

def firstMismatch? (expected : Expectations) (actual : ProcessOutput) : Option String :=
  [exitCodeMismatch? expected actual,
    textMismatch? "stdout" expected.stdout actual.stdout,
    textMismatch? "stderr" expected.stderr actual.stderr,
    errorMismatch? expected actual].findSome? id

/-! ## The verdict -/

def judge (fixture : Fixture) (actual : ProcessOutput) : Status × String :=
  match firstMismatch? fixture.expected actual with
  | some message => (.fail, message)
  | none =>
      let expression := Text.trim fixture.expected.expression
      if expression.isEmpty then (.pass, "")
      else
        match evaluateExpression expression (bindings fixture actual) with
        | .passed => (.pass, "")
        | .failed message => (.fail, message)
        | .errored message => (.error, message)

def verdict (fixture : Fixture) (actual : ProcessOutput) : TestResult :=
  let (status, message) := judge fixture actual
  { name := fixture.name
    status
    command := if actual.command.isEmpty then fixture.commandLine else actual.command
    stdout := actual.stdout
    stderr := actual.stderr
    exitCode := some actual.exitCode
    duration := actual.duration
    message }

end LiterateTest
