import LiterateTest.Json.Basic
import LiterateTest.Number.Reading

/-! Reading JSON text. A reader takes characters and gives a value with the characters after
it, or nothing when the text is not JSON. -/

namespace LiterateTest.Json

abbrev Reader (α : Type) := List Char → Option (α × List Char)

def isSpace (c : Char) : Bool :=
  c == ' ' || c == '\n' || c == '\t' || c == '\r'

def skipSpace (text : List Char) : List Char := text.dropWhile isSpace

/-! ## Strings -/

def readHex4? : List Char → Option (Nat × List Char)
  | a :: b :: c :: d :: rest =>
      if [a, b, c, d].all Integer.isHexDigit then
        some (Integer.ofDigits 16 [a, b, c, d], rest)
      else none
  | _ => none

def readUnicodeEscape? (text : List Char) : Option (Char × List Char) := do
  let (first, rest) ← readHex4? text
  if first < 0xD800 || 0xE000 ≤ first then
    some (Char.ofNat first, rest)
  else if 0xDC00 ≤ first then none
  else
    match rest with
    | '\\' :: 'u' :: rest => do
        let (second, rest) ← readHex4? rest
        if 0xDC00 ≤ second && second < 0xE000 then
          some (Char.ofNat (0x10000 + (first - 0xD800) * 0x400 + (second - 0xDC00)), rest)
        else none
    | _ => none

def simpleEscape? : Char → Option Char
  | '"' => some '"'
  | '\\' => some '\\'
  | '/' => some '/'
  | 'b' => some '\x08'
  | 'f' => some '\x0c'
  | 'n' => some '\n'
  | 'r' => some '\r'
  | 't' => some '\t'
  | _ => none

/-- Reads up to the closing quote. Each step takes at least one character, so as many steps
as there are characters suffice. -/
def readStringRest : (steps : Nat) → (read : List Char) → Reader String
  | 0, _, _ => none
  | _, _, [] => none
  | _, read, '"' :: rest => some (String.ofList read.reverse, rest)
  | steps + 1, read, '\\' :: 'u' :: rest => do
      let (c, rest) ← readUnicodeEscape? rest
      readStringRest steps (c :: read) rest
  | steps + 1, read, '\\' :: escape :: rest => do
      let c ← simpleEscape? escape
      readStringRest steps (c :: read) rest
  | steps + 1, read, c :: rest =>
      if c.toNat < 32 || c == '\\' then none else readStringRest steps (c :: read) rest

/-! ## Numbers

A number without fraction and exponent is an integer if it has a 64-bit one, and minus zero
is a double. Of a longer number only the digits count that fit in 64 bits; the double is that
integer, multiplied or divided by one power of ten. -/

def significandLimit : Nat := 2 ^ 64

/-- Takes digits while the significand fits in 64 bits: the significand, the number of digits
taken and the text after them. -/
def takeSignificant : (significand taken : Nat) → List Char → Nat × Nat × List Char
  | significand, taken, [] => (significand, taken, [])
  | significand, taken, c :: rest =>
      let next := significand * 10 + Integer.digitValue c
      if c.isDigit && next < significandLimit then takeSignificant next (taken + 1) rest
      else (significand, taken, c :: rest)

def powerOfTen (exponent : Nat) : Float := Float.ofScientific 1 false exponent

/-- Scales a significand by a power of ten in one rounding step, or in two where the power
itself is no double. There is no result when it would be infinite. -/
def scale? (significand : Nat) (exponent : Int) : Option Float :=
  let value := Double.ofNat significand
  if exponent.natAbs ≤ 308 then
    if 0 ≤ exponent then
      let product := value * powerOfTen exponent.natAbs
      if product.isInf then none else some product
    else some (value / powerOfTen exponent.natAbs)
  else if significand = 0 then some 0
  else if 0 ≤ exponent then none
  else if exponent.natAbs ≤ 616 then
    some (value / powerOfTen 308 / powerOfTen (exponent.natAbs - 308))
  else some (value / powerOfTen 308 / powerOfTen 308)

def signedFloat (negative : Bool) (value : Float) : Float := if negative then -value else value

def finishFloat (negative : Bool) (significand : Nat) (exponent : Int) : Reader Number
  | rest => do
      let value ← scale? significand exponent
      let number ← Number.ofFloat? (signedFloat negative value)
      some (number, rest)

def isExponentMark (c : Char) : Bool := c == 'e' || c == 'E'

def readExponent (negative : Bool) (significand : Nat) (exponent : Int) : Reader Number
  | [] => finishFloat negative significand exponent []
  | mark :: rest =>
      if isExponentMark mark then
        let (falling, digits) := match rest with
          | '-' :: digits => (true, digits)
          | '+' :: digits => (false, digits)
          | digits => (false, digits)
        let written := digits.takeWhile Char.isDigit
        if written.isEmpty then none
        else
          let amount : Int := Integer.ofDigits 10 written
          finishFloat negative significand (exponent + if falling then -amount else amount)
            (digits.dropWhile Char.isDigit)
      else finishFloat negative significand exponent (mark :: rest)

def readFraction (negative : Bool) (significand : Nat) (exponent : Int) : Reader Number
  | '.' :: rest =>
      let (longer, taken, after) := takeSignificant significand 0 rest
      if (rest.takeWhile Char.isDigit).isEmpty then none
      else
        readExponent negative longer (exponent - taken) (after.dropWhile Char.isDigit)
  | rest => readExponent negative significand exponent rest

def startsFloat : List Char → Bool
  | c :: _ => c == '.' || isExponentMark c
  | [] => false

def readUnsignedNumber (negative : Bool) (text : List Char) : Option (Number × List Char) :=
  let digits := text.takeWhile Char.isDigit
  let afterDigits := text.dropWhile Char.isDigit
  let (significand, taken, _) := takeSignificant 0 0 digits
  match digits with
  | [] => none
  | '0' :: _ :: _ => none
  | _ =>
      if taken < digits.length then
        readFraction negative significand ((digits.length - taken : Nat) : Int) afterDigits
      else if startsFloat afterDigits then
        readFraction negative significand 0 afterDigits
      else if !negative then
        (Number.ofInt? significand).map (·, afterDigits)
      else if significand = 0 || 2 ^ 63 < significand then
        (Number.ofFloat? (-Double.ofNat significand)).map (·, afterDigits)
      else
        (Number.ofInt? (-(significand : Int))).map (·, afterDigits)

def readNumber : List Char → Option (Number × List Char)
  | '-' :: rest => readUnsignedNumber true rest
  | text => readUnsignedNumber false text

/-! ## Values

`value` reads an element; the number of steps bounds the number of elements. -/

def readItemsRest (value : Reader Json) : (steps : Nat) → (read : List Json) → Reader Json
  | 0, _, _ => none
  | steps + 1, read, text => do
      let (item, rest) ← value text
      match skipSpace rest with
      | ',' :: rest => readItemsRest value steps (item :: read) rest
      | ']' :: rest => some (.list (item :: read).reverse, rest)
      | _ => none

def readEntriesRest (value : Reader Json) : (steps : Nat) → (read : Record Json) → Reader Json
  | 0, _, _ => none
  | steps + 1, read, text =>
      match skipSpace text with
      | '"' :: rest => do
          let (key, rest) ← readStringRest rest.length [] rest
          match skipSpace rest with
          | ':' :: rest => do
              let (item, rest) ← value rest
              match skipSpace rest with
              | ',' :: rest => readEntriesRest value steps (Record.insert key item read) rest
              | '\x7d' :: rest => some (.map (Record.insert key item read), rest)
              | _ => none
          | _ => none
      | _ => none

def readWord (word : String) (value : Json) (text : List Char) : Option (Json × List Char) :=
  (Text.stripLead? word.toList text).map (value, ·)

def readValue : (depth : Nat) → Reader Json
  | depth, text =>
      match skipSpace text with
      | [] => none
      | 'n' :: rest => readWord "ull" .null rest
      | 't' :: rest => readWord "rue" (.bool true) rest
      | 'f' :: rest => readWord "alse" (.bool false) rest
      | '"' :: rest => (readStringRest rest.length [] rest).map fun (text, rest) => (.string text, rest)
      | '[' :: rest =>
          match depth with
          | 0 => none
          | depth + 1 =>
              match skipSpace rest with
              | ']' :: rest => some (.list [], rest)
              | rest => readItemsRest (readValue depth) rest.length [] rest
      | '\x7b' :: rest =>
          match depth with
          | 0 => none
          | depth + 1 =>
              match skipSpace rest with
              | '\x7d' :: rest => some (.map [], rest)
              | rest => readEntriesRest (readValue depth) rest.length [] rest
      | text => (readNumber text).map fun (value, rest) => (.number value, rest)

def depthLimit : Nat := 127

def read? (text : String) : Option Json := do
  let (value, rest) ← readValue depthLimit text.toList
  if (skipSpace rest).isEmpty then some value else none

end LiterateTest.Json
