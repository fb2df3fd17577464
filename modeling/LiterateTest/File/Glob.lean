import LiterateTest.Fault
import LiterateTest.File.Tree

/-! Glob patterns: paths in which `?` stands for a character, `*` for any characters of a name,
`[…]` and `[!…]` for a character of a set or outside it, and `**` for any directories. -/

namespace LiterateTest

inductive GlobToken where
  | char (c : Char)
  | anyChar
  /-- A character between the bounds of one of the ranges. -/
  | within (ranges : List (Char × Char))
  /-- A character outside all ranges. -/
  | except (ranges : List (Char × Char))
  | anyText
  /-- Any number of directories, one in another. -/
  | anyDirectories
  deriving DecidableEq, Repr

namespace Glob

/-! ## Reading -/

def ranges : List Char → List (Char × Char)
  | low :: '-' :: high :: rest => (low, high) :: ranges rest
  | c :: rest => (c, c) :: ranges rest
  | [] => []

def upToBracket? (text : List Char) : Option (List Char) :=
  (Text.splitAtFirst? ']' text).map Prod.fst

/-- A set in brackets after the opening one, with the number of characters it takes. Its first
character may be a `]`. -/
def readSet? : List Char → Option (GlobToken × Nat)
  | '!' :: first :: rest =>
      (upToBracket? rest).map fun others =>
        (.except (ranges (first :: others)), others.length + 3)
  | ['!'] => none
  | first :: rest =>
      (upToBracket? rest).map fun others =>
        (.within (ranges (first :: others)), others.length + 2)
  | [] => none

/-- Checks two stars, with the character before them and the text after them: they have to stand
alone between slashes. -/
def checkRecursive (position : Nat) (before : Option Char) (after : List Char) :
    Except GlobFault Unit :=
  if before.isSome && before != some '/' then .error (.recursiveWildcards (position - 1))
  else if after.isEmpty || after.head? == some '/' then .ok ()
  else .error (.recursiveWildcards (position + 2))

/-- Reads a pattern from a position on, behind a character. `skip` characters have been read
before. -/
def readFrom : (skip position : Nat) → (before : Option Char) → List Char →
    Except GlobFault (List GlobToken)
  | _, _, _, [] => .ok []
  | skip + 1, position, _, c :: rest => readFrom skip (position + 1) (some c) rest
  | 0, position, before, c :: rest =>
      match c with
      | '?' => do
          let tokens ← readFrom 0 (position + 1) (some c) rest
          return .anyChar :: tokens
      | '*' =>
          match (rest.takeWhile (· == '*')).length with
          | 0 => do
              let tokens ← readFrom 0 (position + 1) (some c) rest
              return .anyText :: tokens
          | 1 => do
              checkRecursive position before (rest.drop 1)
              let tokens ← readFrom 2 (position + 1) (some c) rest
              return .anyDirectories :: tokens
          | _ => .error (.wildcards (position + 2))
      | '[' =>
          match readSet? rest with
          | none => .error (.invalidRange position)
          | some (found, count) => do
              let tokens ← readFrom count (position + 1) (some c) rest
              return found :: tokens
      | c => do
          let tokens ← readFrom 0 (position + 1) (some c) rest
          return .char c :: tokens

def read (text : String) : Except GlobFault (List GlobToken) := readFrom 0 0 none text.toList

example : (read "a[!b-d]?*").toOption
    = some [.char 'a', .except [('b', 'd')], .anyChar, .anyText] := by decide

/-! ## Matching a name -/

def tails : List Char → List (List Char)
  | [] => [[]]
  | c :: rest => (c :: rest) :: tails rest

def inRanges (ranges : List (Char × Char)) (c : Char) : Bool :=
  ranges.any fun (low, high) => low ≤ c && c ≤ high

def accepts (token : GlobToken) (c : Char) : Bool :=
  match token with
  | .char wanted => c == wanted
  | .anyChar => true
  | .within ranges => inRanges ranges c
  | .except ranges => !inRanges ranges c
  | .anyText => false
  | .anyDirectories => false

/-- What can be left of a text after one more token, where the first of `rests` holds all others
at its end. -/
def advance (rests : List (List Char)) (token : GlobToken) : List (List Char) :=
  match token, rests with
  | .anyText, longest :: _ => tails longest
  | .anyDirectories, longest :: _ => tails longest
  | token, rests => rests.filterMap fun rest =>
      match rest with
      | [] => none
      | c :: others => if accepts token c then some others else none

def isMatch (tokens : List GlobToken) (text : List Char) : Bool :=
  (tokens.foldl advance [text]).any List.isEmpty

example : isMatch [.anyText, .char '.', .char 'x'] "a.b.x".toList = true := by decide

end Glob

/-! ## Patterns of paths -/

inductive GlobStep where
  /-- The name itself. -/
  | name (name : String)
  | pattern (tokens : List GlobToken)
  /-- Any number of directories. -/
  | recursive
  deriving DecidableEq, Repr

namespace GlobStep

def plainText? (tokens : List GlobToken) : Option (List Char) :=
  tokens.mapM fun token =>
    match token with
    | .char c => some c
    | _ => none

def ofTokens (tokens : List GlobToken) : GlobStep :=
  if tokens.contains .anyDirectories then recursive
  else
    match plainText? tokens with
    | some text => name (String.ofList text)
    | none => pattern tokens

def accepts (step : GlobStep) (text : String) : Bool :=
  match step with
  | name wanted => text == wanted
  | pattern tokens => Glob.isMatch tokens text.toList
  | recursive => true

end GlobStep

structure Glob where
  /-- Whether the pattern starts at the top of the tree. -/
  absolute : Bool
  steps : List GlobStep
  /-- Whether the pattern ends in a slash. -/
  directoriesOnly : Bool

namespace Glob

def stepTexts (text : String) : List String :=
  let texts := Text.split text "/"
  if texts.getLast? = some "" then texts.dropLast else texts

def ofString (text : String) : Except GlobFault Glob := do
  let _ ← read text
  let absolute := Path.isAbsolute text
  let names := (Text.dropLead? text "/").getD text
  let steps ← (stepTexts names).mapM read
  return {
    absolute
    steps := if names.isEmpty then [.name ""] else steps.map GlobStep.ofTokens
    directoriesOnly := Text.endsWith text "/" }

/-! ## Searching -/

def inside (directory name : String) : String :=
  if Path.parts directory == [.here] then name else Path.join directory name

def below (place : Place) : List Place := place.2.placesBelow inside place.1

def children (place : Place) : List Place :=
  place.2.entries.map fun (name, entry) => (inside place.1 name, entry)

/-- `.` and `..` as far as a pattern with a dot at its start matches them. -/
def dotNames (tokens : List GlobToken) : List String :=
  if tokens.head? = some (.char '.') then
    [".", ".."].filter fun name => isMatch tokens name.toList
  else []

def visit (step : GlobStep) (isLast : Bool) (next : Place → List Place) (place : Place) :
    List Place :=
  match Path.fileName? place.1 with
  | none => []
  | some name =>
      if step.accepts name && (isLast || place.2.isDirectory) then next place else []

def visitPath (tree : FileTree) (next : Place → List Place) (path : String) : List Place :=
  match tree.entry? path with
  | none => []
  | some entry => next (path, entry)

mutual
def search (tree : FileTree) : (steps : List GlobStep) → Place → List Place
  | [], place => [place]
  | .name name :: steps, place =>
      visitPath tree (search tree steps) (inside place.1 name)
  | .pattern tokens :: steps, place =>
      if place.2.isDirectory then
        (children place).flatMap (visit (.pattern tokens) steps.isEmpty (search tree steps))
          ++ (dotNames tokens).flatMap fun name =>
              visitPath tree (search tree steps) (Path.join place.1 name)
      else []
  | .recursive :: steps, place => searchBelow tree steps place

/-- The places that the steps after `**` lead to. At the end of a pattern, these are the
directories. -/
def searchBelow (tree : FileTree) : (steps : List GlobStep) → Place → List Place
  | [], place => (below place).filter fun found => found.2.isDirectory
  | .recursive :: steps, place => searchBelow tree steps place
  | step :: steps, place =>
      (below place).flatMap (visit step steps.isEmpty (search tree steps))
end

/-- All paths that a pattern matches. One of them can come more than once. -/
def paths (tree : FileTree) (glob : Glob) : List String :=
  let start := if glob.absolute then "/" else "."
  match tree.entry? start with
  | none => []
  | some entry =>
      let found := search tree glob.steps (start, entry)
      (if glob.directoriesOnly then found.filter fun place => place.2.isDirectory
       else found).map Prod.fst

end Glob

end LiterateTest
