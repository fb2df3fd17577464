import LiterateTest.Duration
import LiterateTest.File.Tree

/-! What a program finds when it starts, and what it leaves when it ends. A program reads its
input and files, writes, and ends with a code. -/

namespace LiterateTest.Shell

structure Call where
  program : String
  arguments : List String
  env : Record String := []
  input : List UInt8 := []
  files : FileTree

inductive Written where
  | output (bytes : List UInt8)
  | error (text : String)
  deriving DecidableEq, Repr

structure Reply where
  written : List Written := []
  exitCode : Nat := 0
  files : FileTree
  /-- What is left of the input. -/
  input : List UInt8 := []
  elapsed : Duration := .zero

namespace Call

def output (call : Call) (bytes : List UInt8) : Reply :=
  { written := [.output bytes], files := call.files, input := call.input }

def say (call : Call) (text : String) : Reply := call.output (Text.utf8Bytes text)

def ending (call : Call) (exitCode : Nat) : Reply :=
  { exitCode, files := call.files, input := call.input }

def complain (call : Call) (text : String) (exitCode : Nat) : Reply :=
  { written := [.error (call.program ++ ": " ++ text ++ "\n")]
    exitCode, files := call.files, input := call.input }

/-! ## Options -/

def splitOptions : List String → List Char × List String
  | [] => ([], [])
  | argument :: rest =>
      match argument.toList with
      | '-' :: '-' :: [] => ([], rest)
      | '-' :: c :: letters =>
          let (others, left) := splitOptions rest
          (c :: letters ++ others, left)
      | _ =>
          let (others, left) := splitOptions rest
          (others, argument :: left)

/-! ## Reading -/

def bytesOf (call : Call) (name : String) : Except FileFault (List UInt8) :=
  if name = "-" then .ok call.input
  else if name = "/dev/null" then .ok []
  else if name = "/dev/stdin" then .ok call.input
  else call.files.read name

/-- The name of a file in a complaint, between quotes if a shell would read it in another way. -/
def shownName (name : String) : String :=
  if name.toList.any fun c => " \t\n*?[]$\x60\"'\\<>|&;()!#~".toList.contains c then
    "'" ++ name ++ "'"
  else name

/-- Writes what `use` makes of the names and bytes of some files, or of the input where there are
no names. Files that are not there are complained about. -/
def eachFile (call : Call) (names : List String) (use : String → List UInt8 → List UInt8) :
    Reply :=
  let names := if names.isEmpty then ["-"] else names
  let step := fun (reply : Reply) (name : String) =>
    match call.bytesOf name with
    | .ok bytes => { reply with written := reply.written ++ [.output (use name bytes)] }
    | .error fault =>
        let text := call.program ++ ": " ++ shownName name ++ ": " ++ fault.text ++ "\n"
        { reply with written := reply.written ++ [.error text], exitCode := 1 }
  names.foldl step { files := call.files, input := if names.contains "-" then [] else call.input }

def allBytes (call : Call) (names : List String) : Except Reply (List UInt8) :=
  let reply := call.eachFile names fun _ bytes => bytes
  if reply.exitCode = 0 then
    .ok (reply.written.flatMap fun written =>
      match written with
      | .output bytes => bytes
      | .error _ => [])
  else .error { reply with written := reply.written.filter fun found => found matches .error _ }

end Call

def byteLines : List UInt8 → List (List UInt8)
  | [] => []
  | byte :: rest =>
      if byte = 10 then [10] :: byteLines rest
      else
        match byteLines rest with
        | [] => [[byte]]
        | line :: lines => (byte :: line) :: lines

def withoutBreak (line : List UInt8) : List UInt8 :=
  if line.getLast? = some 10 then line.dropLast else line

def withBreak (line : List UInt8) : List UInt8 := withoutBreak line ++ [10]

abbrev Program := Call → Reply

end LiterateTest.Shell
