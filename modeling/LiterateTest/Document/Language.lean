import LiterateTest.Text.Basic

/-! The languages of code blocks, and the commands that run them. -/

namespace LiterateTest

structure Command where
  program : String
  arguments : List String
  deriving DecidableEq, Repr

namespace Language

def standalone : List String :=
  ["bash", "shell", "sh", "python", "py", "typescript", "ts", "go"]

def isStandalone (language : String) : Bool := standalone.contains language

def isFrontMatter (language : String) : Bool :=
  ["frontmatter", "yaml", "yml"].contains language

def isInfoSeparator (c : Char) : Bool :=
  Text.isBlank c || c == ',' || c == '\x7b' || c == '\x7d'

def ofInfo (info : String) : String :=
  let start := info.toList.dropWhile isInfoSeparator
  let first := start.takeWhile fun c => !isInfoSeparator c
  let trimmed := ((first.dropWhile (· == '.')).reverse.dropWhile (· == '.')).reverse
  String.ofList (trimmed.map Char.toLower)

example : ofInfo "Bash title=demo" = "bash" := by decide
example : ofInfo "\x7b.sh\x7d" = "sh" := by decide

/-- The command for a code block of a command block. Of a language that is not known, the name
is the program and the code its only argument. -/
def command (language code : String) : Command :=
  match language with
  | "bash" | "sh" | "python" | "python3" => ⟨language, ["-c", code]⟩
  | "shell" => ⟨"bash", ["-c", code]⟩
  | "pwsh" | "powershell" => ⟨language, ["-Command", code]⟩
  | "typescript" | "ts" => ⟨"tsx", ["-e", code]⟩
  | "javascript" | "js" => ⟨"node", ["-e", code]⟩
  | other => ⟨other, [code]⟩

def goScript (code : String) : String :=
  "set -e\nscratch=$(mktemp -d)\ntrap 'rm -rf \"$scratch\"' EXIT\n"
    ++ "cat > \"$scratch/main.go\" <<'MDSPEC_GO_EOF'\n" ++ code
    ++ "\nMDSPEC_GO_EOF\ngo run \"$scratch/main.go\""

def standaloneCommand (language code : String) : Command :=
  match language with
  | "py" => ⟨"python3", ["-c", code]⟩
  | "go" => ⟨"bash", ["-c", goScript code]⟩
  | other => command other code

end Language

end LiterateTest
