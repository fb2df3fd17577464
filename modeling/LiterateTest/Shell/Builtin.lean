import LiterateTest.Shell.Field
import LiterateTest.Shell.Session
import LiterateTest.Shell.Tool

/-! Commands that the shell runs itself. -/

namespace LiterateTest.Shell.Builtin

def ownPrograms : List String :=
  [":", "[", "cd", "echo", "eval", "exec", "exit", "export", "false", "kill", "printf", "pwd",
    "read", "return", "set", "shift", "test", "true", "type", "unset", "wait"]

def exit (streams : Streams) (arguments : List String) : Action Unit := do
  match arguments with
  | [] => throw .exit
  | text :: _ =>
      match (Text.trim text).toInt? with
      | some code => Action.exitWith (code % 256).toNat
      | none =>
          match (← get).dialect with
          | .bash => Action.complain streams ("exit: " ++ text ++ ": numeric argument required") 2
          | .sh => Action.complain streams ("exit: Illegal number: " ++ text) 2
      throw .exit

def cd (streams : Streams) (arguments : List String) : Action Unit := do
  let session ← get
  let path := arguments.headD ((Record.get? "HOME" session.values).getD ".")
  match session.files.enter? path with
  | some files => set { session with files, exitCode := 0 }
  | none =>
      let fault := if session.files.isFile path then .notDirectory else session.files.fault path
      match session.dialect with
      | .bash => Action.complain streams ("cd: " ++ path ++ ": " ++ fault.text) 1
      | .sh => Action.complain streams ("cd: can't cd to " ++ path) 2

def assign (isExported : Bool) (argument : String) : Action Unit :=
  modify fun session =>
    let (name, value?) :=
      match Text.splitAtFirst? '=' argument.toList with
      | some (name, value) => (String.ofList name, some (String.ofList value))
      | none => (argument, none)
    let changed := (value?.map (session.setVariable name)).getD session
    if isExported then { changed with exported := name :: changed.exported } else changed

def unset (name : String) : Action Unit :=
  modify fun session =>
    { session with values := session.values.filter fun entry => entry.1 != name }

def setOption (isOn : Bool) (letter : Char) : Action Unit :=
  modify fun session =>
    match letter with
    | 'e' => { session with stopsOnFailure := isOn }
    | 'u' => { session with needsVariables := isOn }
    | _ => session

def setOptions : List String → Action Unit
  | [] => pure ()
  | "--" :: arguments => modify fun session => { session with arguments }
  | argument :: rest =>
      match argument.toList with
      | sign :: letters => do
          if sign = '-' || sign = '+' then
            for letter in letters do
              setOption (sign == '-') letter
            if letters.contains 'o' && rest.head? = some "pipefail" then
              modify fun session => { session with failsAsPipe := sign == '-' }
            setOptions rest
          else modify fun session => { session with arguments := argument :: rest }
      | [] => modify fun session => { session with arguments := argument :: rest }

def assignWords : (names : List String) → List Char → Action Unit
  | [], _ => pure ()
  | [name], text =>
      modify (·.setVariable name (String.ofList (Text.trimChars text)))
  | name :: names, text => do
      let start := text.dropWhile Fragment.isDivider
      let word := start.takeWhile fun c => !Fragment.isDivider c
      modify (·.setVariable name (String.ofList word))
      assignWords names (start.drop word.length)

def read (arguments : List String) : Action Unit := do
  let names := (Call.splitOptions arguments).2
  let session ← get
  match byteLines session.input with
  | [] => Action.exitWith 1
  | line :: rest => do
      let isWhole := line.getLast? = some 10
      set { session with input := rest.flatten, exitCode := if isWhole then 0 else 1 }
      assignWords (if names.isEmpty then ["REPLY"] else names)
        (Text.decodeUtf8Lossy (withoutBreak line)).toList

/-- Sends a signal. The only process that can be reached is the shell. -/
def kill (streams : Streams) (arguments : List String) : Action Unit := do
  let target := arguments.getLastD ""
  let isTest := arguments.contains "-0"
  if target = toString Session.processNumber then
    if isTest then Action.exitWith 0 else throw .killed
  else Action.complain streams ("kill: (" ++ target ++ ") - No such process") 1

def describe (streams : Streams) (name : String) : Action Unit := do
  let session ← get
  let isOwn := ownPrograms.contains name || session.functions.any fun entry => entry.1 == name
  let found :=
    if isOwn then some name
    else if (Tool.find? name).isSome then some ("/usr/bin/" ++ name)
    else none
  match found with
  | some text =>
      modify (·.write streams.output (Text.utf8Bytes (text ++ "\n")))
      Action.exitWith 0
  | none => Action.exitWith 1

end LiterateTest.Shell.Builtin
