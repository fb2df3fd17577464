import LiterateTest.Shell.Call
import LiterateTest.Shell.Basic

/-! The state of a running shell: variables, files, input, and what was written so far. -/

namespace LiterateTest.Shell

/-- Which of the two shells it is. They differ in their messages, and in what `echo` makes of
backslashes. -/
inductive Dialect where
  | bash
  | sh
  deriving DecidableEq, Repr

inductive Target where
  /-- What is collected here is read later. The first two buffers are output and errors of the
  process. -/
  | buffer (index : Nat)
  | file (names : List String)
  | nowhere
  deriving DecidableEq, Repr

structure Streams where
  output : Target := .buffer 0
  errors : Target := .buffer 1
  deriving DecidableEq, Repr

structure Session where
  dialect : Dialect
  /-- The name of the shell or of its script, for messages. -/
  name : String
  files : FileTree
  /-- The values of variables. -/
  values : Record String := []
  /-- The variables that programs get to see. -/
  exported : List String := []
  arguments : List String := []
  functions : List (String × Statement) := []
  /-- The code of the last command. -/
  exitCode : Nat := 0
  line : Nat := 1
  /-- Whether a command that fails ends the shell. -/
  stopsOnFailure : Bool := false
  /-- Whether it is a failure to use a variable that is not set. -/
  needsVariables : Bool := false
  /-- Whether a pipe fails if any of its commands does. -/
  failsAsPipe : Bool := false
  input : List UInt8 := []
  buffers : List (List UInt8) := [[], []]
  elapsed : Nat := 0

inductive Halt where
  | exit
  | killed
  | endless
  /-- Ends loops, as many as it says. -/
  | leave (loops : Nat)
  /-- Goes on with the next round of a loop, after ending the loops within it. -/
  | again (loops : Nat)
  | backToCaller
  deriving DecidableEq, Repr

abbrev Action (α : Type) := ExceptT Halt (StateM Session) α

namespace Session

/-! ## Writing -/

def write (session : Session) (target : Target) (bytes : List UInt8) : Session :=
  match target with
  | .nowhere => session
  | .buffer index =>
      { session with buffers := session.buffers.modify index (· ++ bytes) }
  | .file names =>
      let before :=
        match session.files.top.find? names with
        | some (.file content) => content
        | _ => []
      let top := Entry.put (.file (before ++ bytes)) names session.files.top
      { session with files := { session.files with top } }

def place (session : Session) : String :=
  match session.dialect with
  | .bash => session.name ++ ": line " ++ toString session.line ++ ": "
  | .sh => session.name ++ ": " ++ toString session.line ++ ": "

def complain (session : Session) (streams : Streams) (text : String) : Session :=
  session.write streams.errors (Text.utf8Bytes (session.place ++ text ++ "\n"))

/-! ## Variables -/

def processNumber : Nat := 2

def valueOf? (session : Session) (name : String) : Option String :=
  match name with
  | "?" => some (toString session.exitCode)
  | "$" => some (toString processNumber)
  | "#" => some (toString session.arguments.length)
  | "@" | "*" => some (Text.joinWith " " session.arguments)
  | "0" => some session.name
  | "-" | "!" => some ""
  | "PWD" => some session.files.directoryPath
  | _ =>
      match name.toNat? with
      | some index => session.arguments[index - 1]?
      | none => Record.get? name session.values

def setVariable (session : Session) (name value : String) : Session :=
  { session with values := Record.insert name value session.values }

def env (session : Session) : Record String :=
  session.values.filter fun entry => session.exported.contains entry.1

/-! ## Redirections -/

def targetOf (session : Session) (streams : Streams) (fresh : Bool) (path : String) :
    Except FileFault (Session × Target) :=
  match path with
  | "/dev/null" => .ok (session, .nowhere)
  | "/dev/stdout" => .ok (session, streams.output)
  | "/dev/stderr" => .ok (session, streams.errors)
  | _ =>
      let content := if fresh then [] else (session.files.readBytes? path).getD []
      match session.files.write? path content, session.files.locate? path with
      | some files, some names => .ok ({ session with files }, .file names)
      | _, _ => .error (session.files.fault path)

def descriptorTarget (streams : Streams) (text : String) : Target :=
  if text = "1" then streams.output
  else if text = "2" then streams.errors
  else .nowhere

def redirectTarget (streams : Streams) (descriptor : Nat) (target : Target) : Streams :=
  if descriptor = 1 then { streams with output := target }
  else if descriptor = 2 then { streams with errors := target }
  else streams

def redirect (session : Session) (streams : Streams) (descriptor : Nat) (kind : RedirectionKind)
    (text : String) : Except FileFault (Session × Streams) :=
  match kind with
  | .read =>
      if text = "/dev/null" then .ok ({ session with input := [] }, streams)
      else (session.files.read text).map fun input => ({ session with input }, streams)
  | .hereText => .ok ({ session with input := Text.utf8Bytes text }, streams)
  | .hereLine => .ok ({ session with input := Text.utf8Bytes (text ++ "\n") }, streams)
  | .duplicate =>
      if text.isNat || text = "-" then
        .ok (session, redirectTarget streams descriptor (descriptorTarget streams text))
      else
        (targetOf session streams true text).map fun (session, target) =>
          (session, { output := target, errors := target })
  | .write =>
      (targetOf session streams true text).map fun (session, target) =>
        (session, redirectTarget streams descriptor target)
  | .append =>
      (targetOf session streams false text).map fun (session, target) =>
        (session, redirectTarget streams descriptor target)
  | .writeBoth =>
      (targetOf session streams true text).map fun (session, target) =>
        (session, { output := target, errors := target })
  | .appendBoth =>
      (targetOf session streams false text).map fun (session, target) =>
        (session, { output := target, errors := target })

def redirectionComplaint (session : Session) (kind : RedirectionKind) (path : String)
    (fault : FileFault) : String :=
  match session.dialect with
  | .bash => path ++ ": " ++ fault.text
  | .sh =>
      let text := if fault = .missing then "No such file" else fault.text
      if kind = .read then "cannot open " ++ path ++ ": " ++ text
      else
        "cannot create " ++ path ++ ": "
          ++ (if fault = .missing then "Directory nonexistent" else text)

end Session

namespace Action

def collect (streams : Streams) (action : Streams → Action Unit) : Action (List UInt8) := do
  let index := (← get).buffers.length
  modify fun session => { session with buffers := session.buffers ++ [[]] }
  action { streams with output := .buffer index }
  let bytes := ((← get).buffers[index]?).getD []
  modify fun session => { session with buffers := session.buffers.take index }
  return bytes

/-- Runs an action so that of its changes only those to files, output and time remain. -/
def isolate (action : Action Unit) : Action Unit := fun session =>
  let (result, after) := action session
  let left := { session with
    files := { after.files with directory := session.files.directory }
    exitCode := after.exitCode
    buffers := after.buffers
    elapsed := after.elapsed
    input := after.input }
  match result with
  | .error .killed => (.error .killed, left)
  | .error .endless => (.error .endless, left)
  | _ => (.ok (), left)

def withInput (input : List UInt8) (action : Action Unit) : Action Unit := do
  let outer := (← get).input
  modify fun session => { session with input }
  action
  modify fun session => { session with input := outer }

def exitWith (exitCode : Nat) : Action Unit := modify fun session => { session with exitCode }

def complain (streams : Streams) (text : String) (exitCode : Nat) : Action Unit := do
  modify fun session => session.complain streams text
  exitWith exitCode

end Action

end LiterateTest.Shell
