import LiterateTest.File.Path
import LiterateTest.Record
import LiterateTest.Text.Utf8

/-! Trees of files, as a program finds them that stands in one of the directories. -/

namespace LiterateTest

inductive Entry where
  | file (content : List UInt8)
  /-- Entries under their names, in the order of these. -/
  | directory (entries : List (String × Entry))

abbrev Place := String × Entry

inductive FileFault where
  | missing
  | denied
  | notDirectory
  | isDirectory
  deriving DecidableEq, Repr

namespace FileFault

def text : FileFault → String
  | missing => "No such file or directory"
  | denied => "Permission denied"
  | notDirectory => "Not a directory"
  | isDirectory => "Is a directory"

def number : FileFault → Nat
  | missing => 2
  | denied => 13
  | notDirectory => 20
  | isDirectory => 21

def message (fault : FileFault) : String :=
  fault.text ++ " (os error " ++ toString fault.number ++ ")"

end FileFault

namespace Entry

def empty : Entry := directory []

def isFile : Entry → Bool
  | file _ => true
  | directory _ => false

def isDirectory : Entry → Bool
  | file _ => false
  | directory _ => true

def entries : Entry → Record Entry
  | file _ => []
  | directory entries => entries

def find? : (names : List String) → Entry → Option Entry
  | [], entry => some entry
  | name :: names, entry => (Record.get? name entry.entries).bind (find? names)

mutual
def placesBelow (join : String → String → String) (path : String) : Entry → List Place
  | file _ => []
  | directory entries => placesBelowAll join path entries

def placesBelowAll (join : String → String → String) (path : String) :
    List (String × Entry) → List Place
  | [] => []
  | (name, entry) :: rest =>
      (join path name, entry) :: placesBelow join (join path name) entry ++ placesBelowAll join path rest
end

def put (new : Entry) : (names : List String) → Entry → Entry
  | [], _ => new
  | name :: names, entry =>
      let inner := (Record.get? name entry.entries).getD empty
      directory (Record.insert name (put new names inner) entry.entries)

def remove : (names : List String) → Entry → Entry
  | [], entry => entry
  | [name], entry => directory (entry.entries.filter fun found => found.1 != name)
  | name :: names, entry =>
      match Record.get? name entry.entries with
      | some inner => directory (Record.insert name (remove names inner) entry.entries)
      | none => entry

end Entry

structure FileTree where
  top : Entry := .empty
  /-- The names that lead to the directory in which relative paths start. -/
  directory : List String := []

namespace FileTree

def directoryPath (tree : FileTree) : String := "/" ++ Text.joinWith "/" tree.directory

/-! ## Finding -/

/-- The names that a further piece of a path leads to. All but the last have to be there, and be
directories. -/
def follow? (top : Entry) (names : List String) (piece : String) : Option (List String) :=
  match top.find? names with
  | some (.directory _) =>
      if piece = "" || piece = "." then some names
      else if piece = ".." then some names.dropLast
      else some (names ++ [piece])
  | _ => none

def locate? (tree : FileTree) (path : String) : Option (List String) :=
  if path = "" then none
  else
    let start := if Path.isAbsolute path then [] else tree.directory
    (Path.pieces path).foldlM (follow? tree.top) start

def entry? (tree : FileTree) (path : String) : Option Entry :=
  (tree.locate? path).bind tree.top.find?

def exists? (tree : FileTree) (path : String) : Bool := (tree.entry? path).isSome

def isFile (tree : FileTree) (path : String) : Bool :=
  ((tree.entry? path).map Entry.isFile).getD false

def isDirectory (tree : FileTree) (path : String) : Bool :=
  ((tree.entry? path).map Entry.isDirectory).getD false

/-! ## Reading -/

def readBytes? (tree : FileTree) (path : String) : Option (List UInt8) :=
  match tree.entry? path with
  | some (.file content) => some content
  | _ => none

def faultAlong (top : Entry) : (names pieces : List String) → FileFault
  | names, [] =>
      match top.find? names with
      | some (.directory _) => .isDirectory
      | _ => .missing
  | names, piece :: pieces =>
      match follow? top names piece with
      | some next => faultAlong top next pieces
      | none => if (top.find? names).isSome then .notDirectory else .missing

def fault (tree : FileTree) (path : String) : FileFault :=
  if path = "" then .missing
  else faultAlong tree.top (if Path.isAbsolute path then [] else tree.directory) (Path.pieces path)

def read (tree : FileTree) (path : String) : Except FileFault (List UInt8) :=
  (tree.readBytes? path).elim (.error (tree.fault path)) .ok

def readText? (tree : FileTree) (path : String) : Option String :=
  (tree.readBytes? path).bind Text.decodeUtf8?

/-! ## Writing -/

def write? (tree : FileTree) (path : String) (content : List UInt8) : Option FileTree :=
  match tree.locate? path with
  | none => none
  | some names =>
      match tree.top.find? names with
      | some (.directory _) => none
      | _ =>
          if names.isEmpty then none
          else some { tree with top := Entry.put (.file content) names tree.top }

def makeDirectories? (tree : FileTree) (path : String) : Option FileTree :=
  let start := if Path.isAbsolute path then [] else tree.directory
  let step := fun (state : FileTree × List String) (piece : String) => do
    let names ← follow? state.1.top state.2 piece
    match state.1.top.find? names with
    | some (.directory _) => some (state.1, names)
    | some (.file _) => none
    | none => some ({ state.1 with top := Entry.put .empty names state.1.top }, names)
  ((Path.pieces path).foldlM step (tree, start)).map Prod.fst

def enter? (tree : FileTree) (path : String) : Option FileTree :=
  match tree.locate? path with
  | some names =>
      match tree.top.find? names with
      | some (.directory _) => some { tree with directory := names }
      | _ => none
  | none => none

end FileTree

end LiterateTest
