import LiterateTest.Fixture.Type
import LiterateTest.Toml.Printer
import LiterateTest.Toml.Reader

/-! Settings of a run, and files that hold them. -/

namespace LiterateTest

structure Settings where
  /-- How many tests run at once; as many as the machine has processors where it is missing. -/
  maxConcurrent : Option Nat := none
  /-- The time for a test that sets none. -/
  defaultTimeoutSeconds : Nat := 300
  buildTimeoutSeconds : Nat := 600
  verbose : Bool := false
  noCache : Bool := false
  /-- The program that fixtures know as `executable`. -/
  executable : Option String := none
  /-- The directory for fixtures that come from no document. -/
  workingDir : String := "."
  extra : Record String := []
  deriving DecidableEq, Repr

inductive SettingsFault where
  /-- A file could not be read or written. -/
  | inaccessible
  /-- The text of a file holds no settings. -/
  | malformed
  deriving DecidableEq, Repr

namespace Settings

def defaultTimeout (settings : Settings) : Duration := .ofSeconds settings.defaultTimeoutSeconds

def buildTimeout (settings : Settings) : Duration := .ofSeconds settings.buildTimeoutSeconds

def options (settings : Settings) : RunOptions where
  workingDir := settings.workingDir
  verbose := settings.verbose
  noCache := settings.noCache
  executable := settings.executable
  extra := settings.extra

/-! ## Reading -/

def field? {α : Type} (entries : Record TomlValue) (name : String) (default : α)
    (read : TomlValue → Option α) : Option α :=
  match Record.get? name entries with
  | none => some default
  | some value => read value

def count? : TomlValue → Option Nat
  | .integer value => if 0 ≤ value && value < 2 ^ 64 then some value.toNat else none
  | _ => none

def boolean? : TomlValue → Option Bool
  | .boolean value => some value
  | _ => none

def string? : TomlValue → Option String
  | .string text => some text
  | _ => none

def strings? : TomlValue → Option (Record String)
  | .table entries => entries.mapM fun (key, value) => (string? value).map (key, ·)
  | _ => none

def ofEntries? (entries : Record TomlValue) : Option Settings := do
  let standard : Settings := {}
  let maxConcurrent ← field? entries "max_concurrent" none fun value => (count? value).map some
  let defaultTimeoutSeconds ←
    field? entries "default_timeout_seconds" standard.defaultTimeoutSeconds count?
  let buildTimeoutSeconds ←
    field? entries "build_timeout_seconds" standard.buildTimeoutSeconds count?
  let verbose ← field? entries "verbose" standard.verbose boolean?
  let noCache ← field? entries "no_cache" standard.noCache boolean?
  let executable ← field? entries "executable" none fun value => (string? value).map some
  let workingDir ← field? entries "working_dir" standard.workingDir string?
  let extra ← field? entries "extra" standard.extra strings?
  return { maxConcurrent, defaultTimeoutSeconds, buildTimeoutSeconds, verbose, noCache,
           executable, workingDir, extra }

def load (tree : FileTree) (path : String) : Except SettingsFault Settings :=
  match tree.readText? path with
  | none => .error .inaccessible
  | some text =>
      match (Toml.read? text).bind ofEntries? with
      | none => .error .malformed
      | some settings => .ok settings

/-! ## Writing -/

def title : String := "# mdspec run configuration\n"

def render (settings : Settings) : String :=
  let optional := fun (name : String) (value : Option String) =>
    (value.map (Toml.printEntry name)).getD ""
  title ++ "\n"
    ++ optional "max_concurrent" (settings.maxConcurrent.map toString)
    ++ Toml.printEntry "default_timeout_seconds" (toString settings.defaultTimeoutSeconds)
    ++ Toml.printEntry "build_timeout_seconds" (toString settings.buildTimeoutSeconds)
    ++ Toml.printEntry "verbose" (toString settings.verbose)
    ++ Toml.printEntry "no_cache" (toString settings.noCache)
    ++ optional "executable" (settings.executable.map Toml.printString)
    ++ Toml.printEntry "working_dir" (Toml.printString settings.workingDir)
    ++ "\n[extra]\n"
    ++ String.join (settings.extra.map fun (key, value) =>
        Toml.printEntry key (Toml.printString value))

def save (settings : Settings) (tree : FileTree) (path : String) :
    Except SettingsFault FileTree :=
  let made :=
    match Path.parent? path with
    | none => some tree
    | some parent => tree.makeDirectories? parent
  match made.bind fun tree => tree.write? path (Text.utf8Bytes settings.render) with
  | none => .error .inaccessible
  | some written => .ok written

end Settings

end LiterateTest
