import LiterateTest.Text.Quoted
import LiterateTest.Toml.Basic

/-! Writing TOML. A text stands between the quotes that need the fewest escapes. -/

namespace LiterateTest.Toml

/-! ## What is in a text -/

def needsEscape (c : Char) : Bool := isControl c && c != '\n'

def longestRun (mark : Char) : (current longest : Nat) → List Char → Nat
  | current, longest, [] => max current longest
  | current, longest, c :: rest =>
      if c = mark then longestRun mark (current + 1) longest rest
      else longestRun mark 0 (max current longest) rest

def runOf (mark : Char) (text : List Char) : Nat := longestRun mark 0 0 text

example : runOf '"' "a\"\"b\"".toList = 2 := by decide

/-! ## Escapes -/

def upperHex4 (value : Nat) : List Char :=
  let digits := (Text.lowerHex value).map Char.toUpper
  List.replicate (4 - digits.length) '0' ++ digits

def escapeChar (c : Char) : List Char :=
  match c with
  | '\x08' => ['\\', 'b']
  | '\t' => ['\\', 't']
  | '\n' => ['\\', 'n']
  | '\x0c' => ['\\', 'f']
  | '\r' => ['\\', 'r']
  | '\\' => ['\\', '\\']
  | '"' => ['\\', '"']
  | c => if isControl c then ['\\', 'u'] ++ upperHex4 c.toNat else [c]

/-- The text on several lines: line breaks stand for themselves, and so do up to two quotes in a
row. `quotes` counts those before. -/
def escapeLines : (quotes : Nat) → List Char → List Char
  | _, [] => []
  | quotes, c :: rest =>
      if c = '\n' then c :: escapeLines 0 rest
      else if c = '"' && quotes < 2 then c :: escapeLines (quotes + 1) rest
      else escapeChar c ++ escapeLines 0 rest

/-! ## Quotes -/

def basic (text : List Char) : List Char := '"' :: text.flatMap escapeChar ++ ['"']

def literal (text : List Char) : List Char := '\'' :: text ++ ['\'']

def firstBreak (text : List Char) : List Char := if text.contains '\n' then ['\n'] else []

def multiBasic (text : List Char) : List Char :=
  List.replicate 3 '"' ++ firstBreak text ++ escapeLines 0 text ++ List.replicate 3 '"'

def multiLiteral (text : List Char) : List Char :=
  List.replicate 3 '\'' ++ firstBreak text ++ text ++ List.replicate 3 '\''

def printText (text : List Char) : List Char :=
  let escapes := text.any needsEscape
  let backslash := text.contains '\\'
  let breaks := text.contains '\n'
  if !escapes && !backslash && !breaks && runOf '"' text = 0 then basic text
  else if !escapes && !breaks && runOf '\'' text = 0 then literal text
  else if !escapes && !backslash && runOf '"' text ≤ 2 then multiBasic text
  else if !escapes && runOf '\'' text ≤ 2 then multiLiteral text
  else if breaks then multiBasic text
  else basic text

def printKey (key : List Char) : List Char :=
  let escapes := key.any isControl
  if !key.isEmpty && key.all isBareKeyChar then key
  else if !escapes && !key.contains '\\' && !key.contains '"' then basic key
  else if !escapes && !key.contains '\'' then literal key
  else basic key

example : printText "both ' and \"".toList = "\"\"\"both ' and \"\"\"\"".toList := by decide
example : printText "back\\slash".toList = "'back\\slash'".toList := by decide

def printEntry (key value : String) : String :=
  String.ofList (printKey key.toList) ++ " = " ++ value ++ "\n"

def printString (text : String) : String := String.ofList (printText text.toList)

end LiterateTest.Toml
