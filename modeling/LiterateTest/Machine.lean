import LiterateTest.Document.Language
import LiterateTest.Duration
import LiterateTest.File.Tree
import LiterateTest.Text.Quoted

/-! Machines on which commands run as processes, which read and write files. -/

namespace LiterateTest

structure Process where
  command : Command
  /-- The path of the directory in which the process starts. -/
  directory : String
  /-- What is set in the environment. -/
  env : Record String
  deriving DecidableEq, Repr

inductive ProcessEnd where
  /-- The exit code is `-1` for a process that a signal ended. -/
  | exited (stdout stderr : List UInt8) (exitCode : Int)
  | notStarted (fault : FileFault)
  | endless
  deriving DecidableEq, Repr

structure ProcessRun where
  ending : ProcessEnd
  elapsed : Duration := .zero
  /-- The files after the process. -/
  files : FileTree

structure Machine where
  files : FileTree
  execute : FileTree → Process → ProcessRun

namespace Machine

def run (machine : Machine) (process : Process) : ProcessRun :=
  machine.execute machine.files process

def after (machine : Machine) (run : ProcessRun) : Machine := { machine with files := run.files }

end Machine

namespace Process

def ofScript (script directory : String) (env : Record String) : Process :=
  { command := ⟨"bash", ["-c", script]⟩, directory, env }

def describeArgument (argument : String) : String :=
  if argument = "" || argument.toList.any Text.isBlank then Text.quoted argument else argument

def describe (process : Process) : String :=
  Text.joinWith " " (process.command.program :: process.command.arguments.map describeArgument)

end Process

end LiterateTest
