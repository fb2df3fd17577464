import LiterateTest.Fault
import LiterateTest.Fixture.Output
import LiterateTest.Fixture.Basic
import LiterateTest.Machine
import LiterateTest.Task.Group

/-! Types of fixtures: what a fixture of a type needs, and how it is run. A fixture that has a
query is of the type `query`, and one that has a program of the type `exec`. -/

namespace LiterateTest

/-! ## Options -/

structure RunOptions where
  /-- The directory for fixtures that come from no document. -/
  workingDir : String := "."
  verbose : Bool := false
  /-- Asks types that keep results not to use them. -/
  noCache : Bool := false
  /-- The program that fixtures know as `executable`. -/
  executable : Option String := none
  extra : Record String := []
  deriving DecidableEq, Repr

namespace RunOptions

def engine : String := "cel"

def describeEntry (entry : String × String) : String :=
  Text.quoted entry.1 ++ ": " ++ Text.quoted entry.2

def describe (options : RunOptions) : String :=
  let executable :=
    match options.executable with
    | some path => "Some(" ++ Text.quotedPath path ++ ")"
    | none => "None"
  "RunOptions \x7b working_dir: " ++ Text.quotedPath options.workingDir
    ++ ", verbose: " ++ toString options.verbose ++ ", no_cache: " ++ toString options.noCache
    ++ ", engine: " ++ Text.quoted engine ++ ", executable: " ++ executable
    ++ ", extra: \x7b" ++ Text.joinWith ", " (options.extra.map describeEntry) ++ "\x7d \x7d"

end RunOptions

/-! ## Types -/

structure FixtureType where
  name : String
  requiredFields : List String := []
  optionalFields : List String := []
  /-- What is wrong with a fixture, if anything is. -/
  check : Fixture → Option Fault
  /-- What a fixture does on a machine. It need not be the same each time: `occasion` tells the
  runs apart. -/
  run : Machine → RunOptions → (occasion : Nat) → Fixture → TaskWork TestResult

abbrev Registry := Record FixtureType

namespace Registry

def queryName : String := "query"

def execName : String := "exec"

def register (registry : Registry) (type : FixtureType) : Except Fault Registry :=
  if Record.hasKey registry type.name then .error (.duplicateType type.name)
  else .ok (Record.insert type.name type registry)

def typeName? (fixture : Fixture) : Option String :=
  if fixture.hasQuery then some queryName
  else if fixture.hasExec then some execName
  else none

def typeOf (registry : Registry) (fixture : Fixture) : Except Fault FixtureType :=
  match typeName? fixture with
  | none => .error (.unknownShape fixture.name)
  | some name =>
      match Record.get? name registry with
      | some type => .ok type
      | none => .error (.unregisteredType name fixture.name)

end Registry

end LiterateTest
