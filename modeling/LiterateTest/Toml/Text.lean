import LiterateTest.Number.Reading
import LiterateTest.Toml.Basic

/-! Texts in TOML: between double quotes with escapes, or between single quotes as they are;
between three quotes they can have line breaks. A reader starts behind the opening quotes, and
gives the text with what follows the closing ones. -/

namespace LiterateTest.Toml

abbrev Reader (α : Type) := List Char → Option (α × List Char)

/-! ## Escapes -/

def hexChar? (digits : List Char) : Option Char :=
  let code := Integer.ofDigits 16 digits
  if digits.all Integer.isHexDigit && (code < 0xD800 || (0xE000 ≤ code && code < 0x110000)) then
    some (Char.ofNat code)
  else none

def simpleEscape? : Char → Option Char
  | '"' => some '"'
  | '\\' => some '\\'
  | 'b' => some '\x08'
  | 'e' => some '\x1b'
  | 'f' => some '\x0c'
  | 'n' => some '\n'
  | 'r' => some '\r'
  | 't' => some '\t'
  | _ => none

def escape? : List Char → Option (Char × Nat)
  | 'x' :: rest => if rest.length < 2 then none else (hexChar? (rest.take 2)).map (·, 3)
  | 'u' :: rest => if rest.length < 4 then none else (hexChar? (rest.take 4)).map (·, 5)
  | 'U' :: rest => if rest.length < 8 then none else (hexChar? (rest.take 8)).map (·, 9)
  | c :: _ => (simpleEscape? c).map (·, 1)
  | [] => none

/-! ## On one line -/

/-- Reads on after `skip` characters that have been read before. -/
def readBasicFrom : (skip : Nat) → Reader (List Char)
  | _, [] => none
  | skip + 1, _ :: rest => readBasicFrom skip rest
  | 0, c :: rest =>
      if c = '"' then some ([], rest)
      else if c = '\\' then do
        let (escaped, count) ← escape? rest
        let (text, after) ← readBasicFrom count rest
        some (escaped :: text, after)
      else if isControl c then none
      else do
        let (text, after) ← readBasicFrom 0 rest
        some (c :: text, after)

def readLiteral : Reader (List Char)
  | [] => none
  | c :: rest =>
      if c = '\'' then some ([], rest)
      else if isControl c then none
      else do
        let (text, after) ← readLiteral rest
        some (c :: text, after)

/-! ## On several lines -/

def lineBreak? : List Char → Option Nat
  | '\n' :: _ => some 1
  | '\r' :: '\n' :: _ => some 2
  | _ => none

def startsWithBlankLine (text : List Char) : Bool :=
  (lineBreak? (text.dropWhile isSpace)).isSome

/-- The quotes after three of them; up to two more belong to the text. -/
def closingQuotes (quote : Char) (rest : List Char) : List Char × List Char :=
  let extra := min 2 (rest.takeWhile (· == quote)).length
  (rest.take extra, rest.drop extra)

/-- Reads on after `skip` characters that have been read before. `joining` holds behind a
backslash at the end of a line, until there is something other than blanks. -/
def readMultiBasicFrom : (skip : Nat) → (joining : Bool) → Reader (List Char)
  | _, _, [] => none
  | skip + 1, joining, _ :: rest => readMultiBasicFrom skip joining rest
  | 0, joining, c :: rest =>
      if joining && (isSpace c || (lineBreak? (c :: rest)).isSome) then
        readMultiBasicFrom ((lineBreak? (c :: rest)).getD 1 - 1) true rest
      else if ['"', '"', '"'].isPrefixOf (c :: rest) then
        some (closingQuotes '"' (rest.drop 2))
      else if c = '\\' then
        if startsWithBlankLine rest then readMultiBasicFrom 0 true rest
        else do
          let (escaped, count) ← escape? rest
          let (text, after) ← readMultiBasicFrom count false rest
          some (escaped :: text, after)
      else if isControl c && (lineBreak? (c :: rest)).isNone && c != '\n' then none
      else do
        let (text, after) ← readMultiBasicFrom 0 false rest
        some (c :: text, after)

def readMultiLiteral : Reader (List Char)
  | [] => none
  | c :: rest =>
      if ['\'', '\'', '\''].isPrefixOf (c :: rest) then
        some (closingQuotes '\'' (rest.drop 2))
      else if isControl c && (lineBreak? (c :: rest)).isNone then none
      else do
        let (text, after) ← readMultiLiteral rest
        some (c :: text, after)

def dropFirstBreak (text : List Char) : List Char := text.drop ((lineBreak? text).getD 0)

/-! ## By the opening quotes -/

def readQuoted : Reader (List Char)
  | '"' :: rest => readBasicFrom 0 rest
  | '\'' :: rest => readLiteral rest
  | _ => none

def readText (text : List Char) : Option (List Char × List Char) :=
  match text with
  | '"' :: '"' :: '"' :: rest => readMultiBasicFrom 0 false (dropFirstBreak rest)
  | '\'' :: '\'' :: '\'' :: rest => readMultiLiteral (dropFirstBreak rest)
  | text => readQuoted text

example : readText "\"a\\tb\\u00e9\"x".toList = some ("a\tbé".toList, ['x']) := by decide
example : readText "\"\"\"\na \\\n  b\"\"\"\"".toList = some ("a b\"".toList, []) := by decide

end LiterateTest.Toml
