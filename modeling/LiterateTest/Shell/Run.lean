import LiterateTest.Machine
import LiterateTest.Shell.Builtin
import LiterateTest.Shell.Formula
import LiterateTest.Shell.Parameter
import LiterateTest.Shell.Parser

/-! How the shell runs scripts, and how a machine runs its programs. -/

namespace LiterateTest.Shell

/-! ## Programs -/

def programName (path : String) : String :=
  match Text.dropLead? path "/usr/bin/" with
  | some name => name
  | none => (Text.dropLead? path "/bin/").getD path

/-- The programs that start other programs, or that need not end. -/
def startingPrograms : List String := ["bash", "sh", "env", "sleep", "timeout", "yes"]

def startFault? (files : FileTree) (program : String) : Option FileFault :=
  let name := programName program
  if (Tool.find? name).isSome || startingPrograms.contains name then none
  else if Text.contains program "/" then
    some (if files.exists? program then .denied else files.fault program)
  else some .missing

def complainingFrom (place : String) (tool : Program) : Program := fun call =>
  let reply := tool call
  let extend := fun (piece : Written) =>
    match piece with
    | .error text => Written.error (place ++ text)
    | .output bytes => .output bytes
  { reply with written := reply.written.map extend }

def runTool (streams : Streams) (tool : Program) (program : String) (arguments : List String) :
    Action Unit :=
  modify fun session =>
    let reply := tool {
      program
      arguments
      env := session.env
      input := session.input
      files := session.files }
    let start := { session with files := reply.files, input := reply.input }
    let written := reply.written.foldl (fun (session : Session) piece =>
      match piece with
      | .output bytes => session.write streams.output bytes
      | .error text => session.write streams.errors (Text.utf8Bytes text)) start
    { written with
      exitCode := reply.exitCode
      elapsed := session.elapsed + reply.elapsed.nanoseconds }

def sleep (streams : Streams) (arguments : List String) : Action Unit := do
  match arguments.map Tool.sleepTime? with
  | [] =>
      modify (·.write streams.errors (Text.utf8Bytes "sleep: missing operand\n"))
      Action.exitWith 1
  | times =>
      match times.mapM id with
      | none =>
          let text := "sleep: invalid time interval '" ++ arguments.headD ""
            ++ "'\nTry 'sleep --help' for more information.\n"
          modify (·.write streams.errors (Text.utf8Bytes text))
          Action.exitWith 1
      | some times =>
          for time in times do
            match time with
            | some time =>
                modify fun session => { session with elapsed := session.elapsed + time.nanoseconds }
            | none => throw .endless
          Action.exitWith 0

structure Invocation where
  letters : List Char
  /-- A script or the path of one, with the arguments. -/
  rest : List String

def invocation : List String → Invocation
  | [] => { letters := [], rest := [] }
  | argument :: rest =>
      match argument.toList with
      | ['-', '-'] => { letters := [], rest }
      | '-' :: letters =>
          let others := invocation rest
          { others with letters := letters ++ others.letters }
      | _ => { letters := [], rest := argument :: rest }

def rounds : (budget : Nat) → (round : Action Bool) → Action Unit
  | 0, _ => throw .endless
  | budget + 1, round => fun session =>
      match round session with
      | (.ok true, next) => rounds budget round next
      | (.ok false, next) => (.ok (), next)
      | (.error halt, next) => (.error halt, next)

def roundLimit : Nat := 10000

def loopBody (body : Action Unit) : Action Bool := fun session =>
  match body session with
  | (.ok (), next) => (.ok true, next)
  | (.error (.leave (loops + 2)), next) => (.error (.leave (loops + 1)), next)
  | (.error (.leave _), next) => (.ok false, next)
  | (.error (.again (loops + 2)), next) => (.error (.again (loops + 1)), next)
  | (.error (.again _), next) => (.ok true, next)
  | (.error halt, next) => (.error halt, next)

def returning (body : Action Unit) : Action Unit := fun session =>
  match body session with
  | (.error .backToCaller, next) => (.ok (), next)
  | (result, next) => (result, next)

def stopOnFailure (checked : Bool) : Action Unit := do
  let session ← get
  if session.stopsOnFailure && session.exitCode != 0 && !checked then throw .exit

def reportFault (streams : Streams) (script : String) (line : Nat) (fault : ScriptFault) :
    Action Unit := do
  let session ← get
  match session.dialect with
  | .sh => do
      modify fun session => { session with line }
      let text :=
        match fault with
        | .unclosed _ => "Syntax error: Unterminated quoted string"
        | .unexpected token => "Syntax error: \"" ++ token ++ "\" unexpected"
        | .unexpectedEnd => "Syntax error: end of file unexpected"
      Action.complain streams text 2
  | .bash =>
      let place := session.name ++ ": -c: line " ++ toString line ++ ": "
      let shown := ((Text.lines script)[line - 1]?).getD ""
      let second :=
        match fault with
        | .unexpected _ => place ++ "\x60" ++ shown ++ "'\n"
        | _ => ""
      let text := place ++ fault.message ++ "\n" ++ second
      modify (·.write streams.errors (Text.utf8Bytes text))
      Action.exitWith 2

mutual
def expandPiece : (budget : Nat) → Streams → Piece → Action (List Fragment)
  | 0, _, _ => throw .endless
  | budget + 1, streams, piece =>
      let fragment := fun (quoted : Bool) (text : String) =>
        if quoted then Fragment.whole false text else .divisible text
      match piece with
      | .text quoted text => pure [.whole (!quoted) text]
      | .output quoted script => do
          let bytes ← Action.collect streams fun inner =>
            Action.isolate (runScript budget inner script)
          let text := (Text.decodeUtf8Lossy bytes).toList.reverse.dropWhile (· == '\n')
          pure [fragment quoted (String.ofList text.reverse)]
      | .number quoted formula => do
          let text ← expandText budget streams formula
          let session ← get
          let valueOf := fun (name : String) =>
            (((session.valueOf? name).getD "").toInt?).getD 0
          match Formula.value? valueOf text with
          | some value => pure [fragment quoted (toString value)]
          | none => do
              Action.complain streams (text ++ ": syntax error in expression") 1
              throw .exit
      | .variable quoted name operation => do
          let session ← get
          let value? := session.valueOf? name
          let (sign, operand) := Parameter.splitSign operation
          let useOperand := fun (_ : Unit) => do
            let text ← expandText budget streams operand
            pure [fragment quoted text]
          let isSet :=
            if sign.startsWith ":" then value?.any (· != "") else value?.isSome
          match sign with
          | ":-" | "-" =>
              if isSet then pure [fragment quoted (value?.getD "")] else useOperand ()
          | ":+" | "+" => if isSet then useOperand () else pure [fragment quoted ""]
          | ":=" | "=" =>
              if isSet then pure [fragment quoted (value?.getD "")]
              else do
                let text ← expandText budget streams operand
                modify (·.setVariable name text)
                pure [fragment quoted text]
          | ":?" | "?" =>
              if isSet then pure [fragment quoted (value?.getD "")]
              else do
                let text ← expandText budget streams operand
                Action.complain streams (name ++ ": " ++ text)
                  (if session.dialect = .bash then 127 else 2)
                throw .exit
          | _ =>
              if value?.isNone && session.needsVariables && name != "@" then do
                match session.dialect with
                | .bash => Action.complain streams (name ++ ": unbound variable") 127
                | .sh => Action.complain streams (name ++ ": parameter not set") 2
                throw .exit
              else if name = "@" && quoted then
                pure ((session.arguments.map (Fragment.whole false)).intersperse .boundary)
              else if sign = "#" && operand = "" then
                pure [fragment quoted (toString (value?.getD "").length)]
              else if sign = "" then pure [fragment quoted (value?.getD "")]
              else do
                let text ← expandText budget streams operand
                pure [fragment quoted (Parameter.modify sign text (value?.getD ""))]

def expandWord (budget : Nat) (streams : Streams) (word : Word) : Action String :=
  match budget with
  | 0 => throw .endless
  | budget + 1 => do
      let fragments ← word.mapM (expandPiece budget streams)
      pure (Fragment.joined fragments.flatten)

def expandText (budget : Nat) (streams : Streams) (text : String) : Action String :=
  match budget with
  | 0 => throw .endless
  | budget + 1 =>
      match Token.readPieces (text.length + 1) .inText text.toList with
      | .ok (word, _) => expandWord budget streams (word.filter (· != .text true "\""))
      | .error _ => pure text

def expandWords (budget : Nat) (streams : Streams) (words : List Word) : Action (List String) :=
  match budget with
  | 0 => throw .endless
  | budget + 1 => do
      let fields ← words.mapM fun word => do
        let fragments ← word.mapM (expandPiece budget streams)
        pure (Fragment.fields fragments.flatten)
      let session ← get
      pure (fields.flatten.flatMap (Field.expand session.files))

def redirectAll (budget : Nat) (streams : Streams) :
    List Redirection → Action (Option Streams)
  | [] => pure (some streams)
  | redirection :: rest =>
      match budget with
      | 0 => throw .endless
      | budget + 1 => do
          let text ← expandWord budget streams redirection.word
          let session ← get
          match session.redirect streams redirection.descriptor redirection.kind text with
          | .ok (next, streams) => do
              set next
              redirectAll budget streams rest
          | .error fault => do
              let text := session.redirectionComplaint redirection.kind text fault
              Action.complain streams text (if session.dialect = .sh then 2 else 1)
              pure none

def runWords (budget : Nat) (streams : Streams) (checked : Bool) (words : List String) :
    Action Unit :=
  match budget, words with
  | 0, _ => throw .endless
  | _, [] => pure ()
  | budget + 1, name :: arguments => do
      let session ← get
      match session.functions.find? fun entry => entry.1 == name with
      | some (_, body) => do
          set { session with arguments }
          returning (runStatement budget streams checked body)
          modify fun after => { after with arguments := session.arguments }
      | none =>
          match name with
          | ":" => Action.exitWith 0
          | "exit" => Builtin.exit streams arguments
          | "cd" => Builtin.cd streams arguments
          | "export" | "local" | "declare" | "readonly" => do
              for argument in arguments do
                if !argument.startsWith "-" then
                  Builtin.assign (name == "export") argument
              Action.exitWith 0
          | "unset" => do
              for argument in arguments do
                Builtin.unset argument
              Action.exitWith 0
          | "set" => do
              Builtin.setOptions arguments
              Action.exitWith 0
          | "shift" => do
              let count := ((arguments.headD "1").toNat?).getD 1
              if count ≤ session.arguments.length then
                set { session with arguments := session.arguments.drop count, exitCode := 0 }
              else Action.exitWith 1
          | "read" => Builtin.read arguments
          | "kill" => Builtin.kill streams arguments
          | "wait" => Action.exitWith 0
          | "break" => throw (.leave (((arguments.headD "1").toNat?).getD 1))
          | "continue" => throw (.again (((arguments.headD "1").toNat?).getD 1))
          | "return" => do
              match (arguments.headD "").toNat? with
              | some code => Action.exitWith (code % 256)
              | none => pure ()
              throw .backToCaller
          | "eval" => runScript budget streams (Text.joinWith " " arguments)
          | "." | "source" =>
              match session.files.read (arguments.headD "") with
              | .ok bytes => returning (runScript budget streams (Text.decodeUtf8Lossy bytes))
              | .error fault =>
                  Action.complain streams (arguments.headD "" ++ ": " ++ fault.text) 1
          | "exec" => do
              runWords budget streams checked arguments
              if !arguments.isEmpty then throw .exit
          | "command" =>
              if arguments.head? = some "-v" then
                Builtin.describe streams ((arguments.drop 1).headD "")
              else runWords budget streams checked arguments
          | "echo" =>
              runTool streams (Tool.echo (session.dialect == .sh)) name arguments
          | "test" | "[" | "printf" =>
              match Tool.find? name with
              | some tool => runTool streams (complainingFrom session.place tool) name arguments
              | none => pure ()
          | _ => runProgram budget streams name arguments

def runProgram (budget : Nat) (streams : Streams) (program : String) (arguments : List String) :
    Action Unit :=
  match budget with
  | 0 => throw .endless
  | budget + 1 => do
      let session ← get
      match startFault? session.files program with
      | some fault =>
          if !Text.contains program "/" then
            let text :=
              match session.dialect with
              | .bash => program ++ ": command not found"
              | .sh => program ++ ": not found"
            Action.complain streams text 127
          else
            let isDirectory := session.files.isDirectory program
            let text :=
              match session.dialect with
              | .bash => if isDirectory then FileFault.isDirectory.text else fault.text
              | .sh => if fault = .missing then "not found" else fault.text
            Action.complain streams (program ++ ": " ++ text)
              (if fault = .denied then 126 else 127)
      | none =>
          let name := programName program
          match name with
          | "bash" => runShell budget streams .bash name arguments
          | "sh" => runShell budget streams .sh name arguments
          | "sleep" => sleep streams arguments
          | "yes" => throw .endless
          | "timeout" => runProgram budget streams ((arguments.drop 1).headD "") (arguments.drop 2)
          | "env" =>
              let isAssignment := fun (argument : String) => Text.contains argument "="
              let rest := arguments.dropWhile isAssignment
              Action.isolate do
                for argument in arguments.takeWhile isAssignment do
                  Builtin.assign true argument
                match rest with
                | [] => runTool streams Tool.printenv "printenv" []
                | inner :: others => runProgram budget streams inner others
          | _ =>
              match Tool.find? name with
              | some tool => runTool streams tool name arguments
              | none => Action.exitWith 127

def runShell (budget : Nat) (streams : Streams) (dialect : Dialect) (name : String)
    (arguments : List String) : Action Unit :=
  match budget with
  | 0 => throw .endless
  | budget + 1 => do
      let session ← get
      let asked := invocation arguments
      let start := fun (name : String) (arguments : List String) =>
        { session with
          dialect, name, arguments
          values := session.env
          functions := []
          exitCode := 0
          line := 1
          stopsOnFailure := asked.letters.contains 'e'
          needsVariables := asked.letters.contains 'u'
          failsAsPipe := false }
      match asked.rest with
      | [] =>
          if asked.letters.contains 'c' then do
            set { session with exitCode := 2 }
            modify (·.write streams.errors
              (Text.utf8Bytes (name ++ ": -c: option requires an argument\n")))
          else Action.isolate do
            set (start name [])
            runScript budget streams (Text.decodeUtf8Lossy session.input)
      | first :: rest =>
          if asked.letters.contains 'c' then
            Action.isolate do
              set (start (rest.headD name) (rest.drop 1))
              runScript budget streams first
          else
            match session.files.read first with
            | .ok bytes =>
                Action.isolate do
                  set (start first rest)
                  runScript budget streams (Text.decodeUtf8Lossy bytes)
            | .error fault => do
                let text :=
                  match dialect with
                  | .bash => name ++ ": " ++ first ++ ": " ++ fault.text ++ "\n"
                  | .sh => name ++ ": 0: cannot open " ++ first ++ ": No such file\n"
                modify (·.write streams.errors (Text.utf8Bytes text))
                Action.exitWith (if dialect = .bash then 127 else 2)

/-- Runs a statement. `checked` if it matters to what follows whether it fails. -/
def runStatement (budget : Nat) (streams : Streams) (checked : Bool) (statement : Statement) :
    Action Unit :=
  match budget with
  | 0 => throw .endless
  | budget + 1 =>
      match statement with
      | .nothing => Action.exitWith 0
      | .command line assignments words redirections => do
          modify fun session => { session with line }
          let before ← get
          let words ← expandWords budget streams words
          let values ← assignments.mapM fun (name, word) => do
            let value ← expandWord budget streams word
            pure (name, value)
          let input := (← get).input
          match ← redirectAll budget streams redirections with
          | none => pure ()
          | some inner => do
              if words.isEmpty then
                for (name, value) in values do
                  modify (·.setVariable name value)
                let changed := assignments.any fun entry =>
                  entry.2.any fun piece => piece matches .output ..
                if !changed then Action.exitWith 0
              else
                for (name, value) in values do
                  Builtin.assign true (name ++ "=" ++ value)
                runWords budget inner checked words
                if !values.isEmpty then
                  modify fun session =>
                    { session with values := before.values, exported := before.exported }
          if redirections.any fun redirection => redirection.descriptor == 0 then
            modify fun session => { session with input }
          stopOnFailure checked
      | .sequence first second => do
          runStatement budget streams checked first
          runStatement budget streams checked second
      | .both first second => do
          runStatement budget streams true first
          if (← get).exitCode = 0 then runStatement budget streams checked second
      | .either first second => do
          runStatement budget streams true first
          if (← get).exitCode != 0 then runStatement budget streams checked second
      | .negation inner => do
          runStatement budget streams true inner
          modify fun session => { session with exitCode := if session.exitCode = 0 then 1 else 0 }
      | .pipe left right => do
          let bytes ← Action.collect streams fun inner =>
            Action.isolate (runStatement budget inner true left)
          let first := (← get).exitCode
          Action.withInput bytes (Action.isolate (runStatement budget streams true right))
          let session ← get
          if session.failsAsPipe && session.exitCode = 0 then Action.exitWith first
          stopOnFailure checked
      | .subshell inner => do
          Action.isolate (runStatement budget streams checked inner)
          stopOnFailure checked
      | .choice condition yes no => do
          runStatement budget streams true condition
          if (← get).exitCode = 0 then runStatement budget streams checked yes
          else runStatement budget streams checked no
      | .loop whileHolds condition body =>
          rounds roundLimit do
            runStatement budget streams true condition
            if ((← get).exitCode == 0) != whileHolds then
              Action.exitWith 0
              pure false
            else loopBody (runStatement budget streams checked body)
      | .forEach name words body => do
          let values ← expandWords budget streams words
          Action.exitWith 0
          let step := fun (goesOn : Bool) (value : String) =>
            if goesOn then do
              modify (·.setVariable name value)
              loopBody (runStatement budget streams checked body)
            else pure false
          let _ ← values.foldlM step true
          pure ()
      | .caseOf word patterns body otherwise => do
          let text ← expandWord budget streams word
          let found ← patterns.anyM fun pattern => do
            let fragments ← pattern.mapM (expandPiece budget streams)
            let fields := Fragment.fields fragments.flatten
            pure (Glob.isMatch (Field.pattern 0 (fields.headD [])) text.toList)
          if found then runStatement budget streams checked body
          else runStatement budget streams checked otherwise
      | .function name body =>
          modify fun session =>
            { session with functions := (name, body) :: session.functions, exitCode := 0 }
      | .redirected line inner redirections => do
          modify fun session => { session with line }
          let input := (← get).input
          match ← redirectAll budget streams redirections with
          | none => pure ()
          | some outer => runStatement budget outer checked inner
          if redirections.any fun redirection => redirection.descriptor == 0 then
            modify fun session => { session with input }

def runScript (budget : Nat) (streams : Streams) (script : String) : Action Unit :=
  match budget with
  | 0 => throw .endless
  | budget + 1 => do
      let (statements, fault) := Statement.ofScript script
      for statement in statements do
        runStatement budget streams false statement
      match fault with
      | none => pure ()
      | some (line, fault) => do
          reportFault streams script line fault
          throw .exit
end

/-! ## Processes -/

def depthLimit : Nat := 2000

def startTime : Duration := .ofMilliseconds 1

def execute (files : FileTree) (process : Process) : ProcessRun :=
  match files.enter? process.directory with
  | none =>
      let fault :=
        if files.isFile process.directory then .notDirectory else files.fault process.directory
      { ending := .notStarted fault, files }
  | some inner =>
      match startFault? inner process.command.program with
      | some fault => { ending := .notStarted fault, files }
      | none =>
          let session : Session :=
            { dialect := .bash
              name := process.command.program
              files := inner
              values := process.env
              exported := process.env.map Prod.fst }
          let (result, after) :=
            runProgram depthLimit {} process.command.program process.command.arguments session
          let output := (after.buffers[0]?).getD []
          let errors := (after.buffers[1]?).getD []
          let ending :=
            match result with
            | .error .endless => .endless
            | .error .killed => .exited output errors (-1)
            | _ => .exited output errors after.exitCode
          { ending
            elapsed := ⟨startTime.nanoseconds + after.elapsed⟩
            files := { after.files with directory := files.directory } }

end LiterateTest.Shell
