/-! What can go wrong with documents and fixtures. -/

namespace LiterateTest

inductive GlobFault where
  | wildcards (position : Nat)
  | recursiveWildcards (position : Nat)
  | invalidRange (position : Nat)
  deriving DecidableEq, Repr

namespace GlobFault

def position : GlobFault → Nat
  | wildcards position => position
  | recursiveWildcards position => position
  | invalidRange position => position

def reason : GlobFault → String
  | wildcards _ => "wildcards are either regular `*` or recursive `**`"
  | recursiveWildcards _ => "recursive wildcards must form a single path component"
  | invalidRange _ => "invalid range pattern"

def message (fault : GlobFault) : String :=
  "Pattern syntax error near position " ++ toString fault.position ++ ": " ++ fault.reason

end GlobFault

inductive Fault where
  /-- A file or directory could not be read. -/
  | unreadable
  | malformedYaml
  | unterminatedFrontMatter (path : String)
  | invalidGlob (fault : GlobFault)
  | invalidDuration (text : String)
  /-- A duration that cannot be held ends the whole program. -/
  | durationOutOfRange
  | duplicateType (name : String)
  | unregisteredType (type fixture : String)
  | unknownShape (fixture : String)
  | invalidFixture (fixture reason : String)
  deriving DecidableEq, Repr

namespace Fault

def message : Fault → String
  | unreadable => "IO error"
  | malformedYaml => "YAML error"
  | unterminatedFrontMatter path => "Unterminated front-matter in " ++ path
  | invalidGlob fault => "Invalid glob pattern: " ++ fault.message
  | invalidDuration text => "Invalid duration: " ++ text
  | durationOutOfRange => "duration out of range"
  | duplicateType name => "Fixture type already registered: " ++ name
  | unregisteredType type fixture =>
      "Fixture type \"" ++ type ++ "\" is not registered (fixture: " ++ fixture ++ ")"
  | unknownShape fixture => "Unable to determine fixture type for " ++ fixture
  | invalidFixture fixture reason => "Invalid fixture " ++ fixture ++ ": " ++ reason

end Fault

end LiterateTest
