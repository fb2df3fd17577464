import LiterateTest.Yaml.Value

/-! The text of YAML values, in block style. A string is quoted only where it would otherwise
be read as something else. -/

namespace LiterateTest.Yaml

/-! ## Strings -/

def isPrintable (c : Char) : Bool :=
  let code := c.toNat
  code == 0x0A || (0x20 ≤ code && code ≤ 0x7E) || code == 0x85 || (0xA0 ≤ code && code ≤ 0xD7FF)
    || (0xE000 ≤ code && code ≤ 0xFFFD && code != 0xFEFF) || 0x10000 ≤ code

def anyPair (related : Char → Char → Bool) (text : List Char) : Bool :=
  (text.zip (text.drop 1)).any fun (left, right) => related left right

/-- Characters that keep a text from being plain: indicators at its start, and colons and
comment marks further on. -/
def hasIndicator (text : List Char) : Bool :=
  let starts := match text with
    | [] => false
    | c :: rest =>
        ['#', ',', '[', ']', '\x7b', '\x7d', '&', '*', '!', '|', '>', '\'', '"', '%', '@',
          '\x60'].contains c
          || ((c == '?' || c == ':' || c == '-') && atBlankOrEnd rest)
  starts || text.take 3 == ['-', '-', '-'] || text.take 3 == ['.', '.', '.']
    || anyPair (fun left right => left == ':' && (isBlank right || isBreak right)) text
    || text.getLast? == some ':'
    || anyPair (fun left right => (isBlank left || isBreak left) && right == '#') text

def isEdgeSpace (c : Option Char) : Bool := c.any fun d => d == ' ' || isBreak d

def needsEscapes (text : List Char) : Bool :=
  text.any (fun c => !isPrintable c && !isBreak c)
    || anyPair (fun left right => left == ' ' && isBreak right) text

def plainAllowed (text : List Char) : Bool :=
  !(isEdgeSpace text.head? || isEdgeSpace text.getLast? || needsEscapes text
    || text.any isBreak || hasIndicator text)

def isAmbiguous (text : String) : Bool :=
  match ofPlain? text with
  | some (.string _) => isPaddedDigits text.toList
  | _ => true

def singleQuoted (text : List Char) : String :=
  String.ofList ('\'' :: text.flatMap (fun c => if c == '\'' then ['\'', '\''] else [c]) ++ ['\''])

def upperHex (width value : Nat) : List Char :=
  let digits := (Nat.toDigits 16 value).map Char.toUpper
  List.replicate (width - digits.length) '0' ++ digits

def escapeChar (c : Char) : List Char :=
  match c with
  | '\x00' => ['\\', '0']
  | '\x07' => ['\\', 'a']
  | '\x08' => ['\\', 'b']
  | '\t' => ['\\', 't']
  | '\n' => ['\\', 'n']
  | '\x0b' => ['\\', 'v']
  | '\x0c' => ['\\', 'f']
  | '\r' => ['\\', 'r']
  | '\x1b' => ['\\', 'e']
  | '"' => ['\\', '"']
  | '\\' => ['\\', '\\']
  | '\u0085' => ['\\', 'N']
  | '\u00a0' => ['\\', '_']
  | '\u2028' => ['\\', 'L']
  | '\u2029' => ['\\', 'P']
  | c =>
      if isPrintable c then [c]
      else if c.toNat ≤ 0xFF then '\\' :: 'x' :: upperHex 2 c.toNat
      else if c.toNat ≤ 0xFFFF then '\\' :: 'u' :: upperHex 4 c.toNat
      else '\\' :: 'U' :: upperHex 8 c.toNat

def doubleQuoted (text : List Char) : String :=
  String.ofList ('"' :: text.flatMap escapeText ++ ['"'])
where
  escapeText (c : Char) : List Char :=
    if c == '\u00a0' then [c] else escapeChar c

def literalHeader (text : List Char) : String :=
  let hint := if isEdgeSpace text.head? then "2" else ""
  let chomping :=
    match text.reverse with
    | [] => "-"
    | last :: rest =>
        if !isBreak last then "-"
        else match rest with
          | [] => "+"
          | previous :: _ => if isBreak previous then "+" else ""
  "|" ++ hint ++ chomping

def literalText (indent : Nat) (text : List Char) : String :=
  let lead := String.ofList (List.replicate indent ' ')
  let lines := Text.split (String.ofList text) "\n"
  let written := lines.map fun line => if line.isEmpty then "" else lead ++ line
  let body := if text.getLast? == some '\n' then written.dropLast else written
  literalHeader text ++ "\n" ++ Text.joinWith "\n" body

def stringText (indent : Nat) (text : String) : String :=
  let chars := text.toList
  if chars.contains '\n' then
    if needsEscapes chars || chars.getLast? == some ' ' then doubleQuoted chars
    else literalText indent chars
  else if needsEscapes chars then doubleQuoted chars
  else if isAmbiguous text || !plainAllowed chars then singleQuoted chars
  else text

def floatText (value : Float) : String :=
  if value.isNaN then ".nan"
  else if value.isInf then (if value < 0 then "-.inf" else ".inf")
  else FloatLayout.yaml.render value

def inlineText? (indent : Nat) : Value → Option String
  | .null => some "null"
  | .bool value => some (toString value)
  | .int value => some (toString value)
  | .float value => some (floatText value)
  | .string text => some (stringText indent text)
  | .sequence [] => some "[]"
  | .mapping [] => some "\x7b\x7d"
  | _ => none

def spaces (count : Nat) : String := String.ofList (List.replicate count ' ')

/-! ## Collections

The lines of a value are given without indentation; what stands around it indents them. -/

def indented (indent : Nat) (lines : List String) : List String :=
  lines.map fun line => if line.isEmpty then line else spaces indent ++ line

def splitLines (text : String) : List String := Text.split text "\n"

def hang (mark : String) : List String → List String
  | [] => [mark]
  | first :: rest => (mark ++ first) :: indented 2 rest

def placeItem (item : Value) (inner : List String) : List String :=
  match item with
  | .string text => splitLines ("- " ++ stringText 2 text)
  | _ => hang "- " inner

/-- An entry of a mapping, by the lines of its value. A sequence stands below its key without
indentation. -/
def placeEntry (key value : Value) (inner : List String) : List String :=
  let keyText := (inlineText? 2 key).getD ""
  match value with
  | .sequence (_ :: _) => (keyText ++ ":") :: inner
  | .mapping (_ :: _) => (keyText ++ ":") :: indented 2 inner
  | .string text => splitLines (keyText ++ ": " ++ stringText 2 text)
  | _ => hang (keyText ++ ": ") inner

def placeTagged (tag : String) (value : Value) (inner : List String) : List String :=
  match inlineText? 2 value with
  | some text => splitLines ("!" ++ tag ++ " " ++ text)
  | none => ("!" ++ tag) :: inner

mutual
def lines : Value → List String
  | .sequence (item :: items) => placeItem item (lines item) ++ itemLines items
  | .mapping ((key, value) :: entries) =>
      placeEntry key value (lines value) ++ entryLines entries
  | .tagged tag value => placeTagged tag value (lines value)
  | value => splitLines ((inlineText? 2 value).getD "")

def itemLines : List Value → List String
  | [] => []
  | item :: rest => placeItem item (lines item) ++ itemLines rest

def entryLines : List (Value × Value) → List String
  | [] => []
  | (key, value) :: rest => placeEntry key value (lines value) ++ entryLines rest
end

def Value.render (value : Value) : String :=
  Text.joinWith "\n" (lines value) ++ "\n"

end LiterateTest.Yaml
