import LiterateTest.Text.Basic

/-! Paths: names between slashes. A path is kept as it is written. Empty names and `.` say
nothing, except for a `.` at the very start. -/

namespace LiterateTest

inductive PathPart where
  | root
  /-- A `.` at the start. -/
  | here
  | up
  | name (name : String)
  deriving DecidableEq, Repr

namespace PathPart

def text : PathPart → String
  | root => "/"
  | here => "."
  | up => ".."
  | name value => value

def rank : PathPart → Nat
  | root => 0
  | here => 1
  | up => 2
  | name _ => 3

def before (left right : PathPart) : Bool :=
  left.rank < right.rank || (left.rank == right.rank && left.text < right.text)

end PathPart

namespace Path

def isAbsolute (path : String) : Bool := Text.startsWith path "/"

/-! ## Pieces -/

def pieces (path : String) : List String :=
  Text.split ((Text.dropLead? path "/").getD path) "/"

def ofPieces (absolute : Bool) (pieces : List String) : String :=
  (if absolute then "/" else "") ++ Text.joinWith "/" pieces

/-- What a piece says; `first` if nothing stands before it. -/
def part? (first : Bool) (piece : String) : Option PathPart :=
  if piece = "" then none
  else if piece = "." then if first then some .here else none
  else if piece = ".." then some .up
  else some (.name piece)

def partsFrom : (first : Bool) → List String → List PathPart
  | _, [] => []
  | first, piece :: rest => (part? first piece).toList ++ partsFrom false rest

def parts (path : String) : List PathPart :=
  if isAbsolute path then .root :: partsFrom false (pieces path)
  else partsFrom true (pieces path)

def trimEnd : (first : Bool) → List String → List String
  | _, [] => []
  | first, piece :: rest =>
      match trimEnd false rest with
      | [] => if (part? first piece).isSome then [piece] else []
      | kept => piece :: kept

/-! ## Names -/

def parent? (path : String) : Option String :=
  let absolute := isAbsolute path
  match trimEnd (!absolute) (pieces path) with
  | [] => none
  | kept => some (ofPieces absolute (trimEnd (!absolute) kept.dropLast))

def fileName? (path : String) : Option String :=
  match (parts path).getLast? with
  | some (.name name) => some name
  | _ => none

/-- A file name up to its last dot, and what follows the dot. A dot at the very start does not
count. -/
def splitExtension (name : String) : String × Option String :=
  match Text.splitAtLast? '.' name.toList with
  | some (before, after) =>
      if before.isEmpty then (name, none) else (String.ofList before, some (String.ofList after))
  | none => (name, none)

def stem? (path : String) : Option String :=
  (fileName? path).map fun name => (splitExtension name).1

def extension? (path : String) : Option String :=
  (fileName? path).bind fun name => (splitExtension name).2

example : parent? "a//b/./c/" = some "a//b" := by decide
example : parent? "/x" = some "/" := by decide
example : parent? "." = some "" := by decide
example : extension? "x/y.tar.gz" = some "gz" := by decide
example : stem? ".hidden" = some ".hidden" := by decide

/-! ## Joining -/

def join (base path : String) : String :=
  if isAbsolute path then path
  else if base = "" || Text.endsWith base "/" then base ++ path
  else base ++ "/" ++ path

def dropParts? : (first : Bool) → List PathPart → List String → Option (List String)
  | true, [], pieces => some pieces
  | false, [], pieces => some (pieces.dropWhile fun piece => (part? false piece).isNone)
  | _, _ :: _, [] => none
  | first, wanted :: others, piece :: rest =>
      match part? first piece with
      | none => dropParts? false (wanted :: others) rest
      | some found => if found = wanted then dropParts? false others rest else none

def relativeTo? (base path : String) : Option String :=
  if isAbsolute path then
    match parts base with
    | [] => some (ofPieces true (trimEnd false (pieces path)))
    | .root :: others =>
        (dropParts? false others (pieces path)).map fun rest => ofPieces false (trimEnd false rest)
    | _ => none
  else
    (dropParts? true (parts base) (pieces path)).map fun rest =>
      ofPieces false (trimEnd (parts base).isEmpty rest)

example : relativeTo? "/x" "/x//y///z" = some "y///z" := by decide
example : relativeTo? "." "./a" = some "a" := by decide
example : relativeTo? "" "./a" = some "./a" := by decide
example : relativeTo? "/x" "/xy" = none := by decide

/-- The path as an absolute one, for one who is at `directory`; there is none for an empty path.
`..` stays, and so does a slash at the end. Two slashes at the start are kept as well. -/
def absolute? (directory path : String) : Option String :=
  if path = "" then none
  else
    let start :=
      if !isAbsolute path then directory
      else if Text.startsWith path "//" && !Text.startsWith path "///" then "//"
      else "/"
    let names := (partsFrom false (pieces path)).map PathPart.text
    let whole := names.foldl join start
    some (if Text.endsWith path "/" then join whole "" else whole)

example : absolute? "/w" "./a/../b" = some "/w/a/../b" := by decide
example : absolute? "/w" "a//b/" = some "/w/a/b/" := by decide

/-! ## Order -/

def partsAtMost : List PathPart → List PathPart → Bool
  | [], _ => true
  | _ :: _, [] => false
  | left :: lefts, right :: rights =>
      if left = right then partsAtMost lefts rights else left.before right

def atMost (left right : String) : Bool := partsAtMost (parts left) (parts right)

def sort (paths : List String) : List String := paths.mergeSort atMost

end Path

end LiterateTest
