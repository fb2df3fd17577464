import LiterateTest.Document.Suite
import LiterateTest.Fixture.Type
import LiterateTest.Fixture.Verdict

/-! The type of fixtures that run a program, and judge what it writes. -/

namespace LiterateTest.Exec

def executableName : String := "executable"

def templateVars (options : RunOptions) (fixture : Fixture) : Record String :=
  match options.executable with
  | none => fixture.templateVars
  | some path =>
      if Record.hasKey fixture.templateVars executableName then fixture.templateVars
      else Record.insert executableName path fixture.templateVars

/-- Where the program runs: in the fixture's directory, which is taken from that of its document,
or from the one of the options where there is no document. -/
def directory (options : RunOptions) (fixture : Fixture) : String :=
  let base := if fixture.sourceDir = "" then options.workingDir else fixture.sourceDir
  let inner := Template.render (Text.trim fixture.cwd) (templateVars options fixture)
  if inner = "" then base else Path.join base inner

def process (options : RunOptions) (fixture : Fixture) : Process :=
  let render := fun text => Template.render text (templateVars options fixture)
  { command := ⟨render (Text.trim fixture.exec), fixture.args.map render⟩
    directory := directory options fixture
    env := fixture.env }

def loadTempFile (files : FileTree) (options : RunOptions) (fixture : Fixture)
    (entry : String × String) : Except String TempFile :=
  let path := Path.join (directory options fixture)
    (Template.render entry.2 (templateVars options fixture))
  match TempFile.load files entry.1 path with
  | .ok file => .ok file
  | .error fault =>
      .error ("failed to read temp file " ++ entry.1 ++ " (" ++ path ++ "): " ++ fault.message)

/-- A result that passed is an error all the same if a file is missing. -/
def withMissingFile (result : TestResult) (message : String) : TestResult :=
  if result.passed then { result with status := .error, message } else result

def judgeOutput (files : FileTree) (options : RunOptions) (fixture : Fixture)
    (output : ProcessOutput) : TestResult :=
  match fixture.tempFiles.mapM (loadTempFile files options fixture) with
  | .ok tempFiles => verdict fixture { output with tempFiles }
  | .error message => withMissingFile (verdict fixture output) message

def run (machine : Machine) (options : RunOptions) (fixture : Fixture) : TaskWork TestResult :=
  let process := process options fixture
  let run := machine.run process
  match run.ending with
  | .exited stdout stderr exitCode =>
      let output : ProcessOutput :=
        { command := process.describe
          stdout := Text.decodeUtf8Lossy stdout
          stderr := Text.decodeUtf8Lossy stderr
          exitCode
          duration := run.elapsed }
      { outcome := .value (judgeOutput run.files options fixture output), elapsed := run.elapsed }
  | .notStarted fault =>
      let message := "failed to run " ++ process.command.program ++ ": " ++ fault.message
      { outcome :=
          .value { TestResult.ofError fixture.name message with command := fixture.commandLine } }
  | .endless => { outcome := .endless }

def check (fixture : Fixture) : Option Fault :=
  if fixture.hasExec then none
  else some (.invalidFixture fixture.name "exec fixtures need a program to run")

def type : FixtureType where
  name := Registry.execName
  requiredFields := ["exec"]
  optionalFields := ["args", "cwd", "env", "timeout", "tempFiles", "expected"]
  check
  run := fun machine options _ fixture => run machine options fixture

end LiterateTest.Exec

namespace LiterateTest.Registry

def registerBuiltin (registry : Registry) : Except Fault Registry := registry.register Exec.type

end LiterateTest.Registry
