import LiterateTest.Toml.Text

/-! Words in TOML that stand without quotes: numbers, truth values, dates and times. -/

namespace LiterateTest.Toml

/-! ## Digits -/

/-- The digits of a number, in which single underscores may stand between digits. -/
def digits? (isDigit : Char → Bool) : List Char → Option (List Char)
  | [] => none
  | [c] => if isDigit c then some [c] else none
  | c :: '_' :: rest => if isDigit c then (digits? isDigit rest).map (c :: ·) else none
  | c :: rest => if isDigit c then (digits? isDigit rest).map (c :: ·) else none

def decimal? (text : List Char) : Option Nat := do
  let digits ← digits? Char.isDigit text
  if digits.head? = some '0' && digits.length != 1 then none
  else some (Integer.ofDigits 10 digits)

def splitSign : List Char → Option Bool × List Char
  | '+' :: rest => (some false, rest)
  | '-' :: rest => (some true, rest)
  | text => (none, text)

/-! ## Numbers -/

def isOctalDigit (c : Char) : Bool := '0' ≤ c && c ≤ '7'

def isBinaryDigit (c : Char) : Bool := c == '0' || c == '1'

def integerLimit : Nat := 2 ^ 128

def integer? (text : List Char) : Option Int := do
  let value : Int ←
    match text with
    | '0' :: 'x' :: rest =>
        (digits? Integer.isHexDigit rest).map fun digits => (Integer.ofDigits 16 digits : Int)
    | '0' :: 'o' :: rest =>
        (digits? isOctalDigit rest).map fun digits => (Integer.ofDigits 8 digits : Int)
    | '0' :: 'b' :: rest =>
        (digits? isBinaryDigit rest).map fun digits => (Integer.ofDigits 2 digits : Int)
    | text =>
        let (sign, rest) := splitSign text
        (decimal? rest).map fun value => if sign = some true then -(value : Int) else value
  if value.natAbs < integerLimit then some value else none

def isExponent (text : List Char) : Bool := (digits? Char.isDigit (splitSign text).2).isSome

def isExponentMark (c : Char) : Bool := c == 'e' || c == 'E'

def isUnsignedFloat (text : List Char) : Bool :=
  let whole := text.takeWhile fun c => c.isDigit || c == '_'
  let rest := text.dropWhile fun c => c.isDigit || c == '_'
  (decimal? whole).isSome &&
    match rest with
    | '.' :: rest =>
        let fraction := rest.takeWhile fun c => c.isDigit || c == '_'
        let after := rest.dropWhile fun c => c.isDigit || c == '_'
        (digits? Char.isDigit fraction).isSome &&
          match after with
          | [] => true
          | mark :: exponent => isExponentMark mark && isExponent exponent
    | mark :: exponent => isExponentMark mark && isExponent exponent
    | [] => false

def isFloat (text : List Char) : Bool :=
  let unsigned := (splitSign text).2
  unsigned == "inf".toList || unsigned == "nan".toList || isUnsignedFloat unsigned

/-! ## Dates and times -/

def inBounds (count low high : Nat) (text : List Char) : Bool :=
  text.length == count && text.all Char.isDigit &&
    low ≤ Integer.ofDigits 10 text && Integer.ofDigits 10 text ≤ high

def isLeapYear (year : Nat) : Bool := year % 4 == 0 && (year % 100 != 0 || year % 400 == 0)

def daysInMonth (year month : Nat) : Nat :=
  if month = 2 then if isLeapYear year then 29 else 28
  else if [4, 6, 9, 11].contains month then 30
  else 31

def isDate (text : List Char) : Bool :=
  match Text.splitChars ['-'] text with
  | [year, month, day] =>
      inBounds 4 0 9999 year && inBounds 2 1 12 month &&
        inBounds 2 1 (daysInMonth (Integer.ofDigits 10 year) (Integer.ofDigits 10 month)) day
  | _ => false

def isSeconds (text : List Char) : Bool :=
  match Text.splitAtFirst? '.' text with
  | none => inBounds 2 0 60 text
  | some (whole, fraction) =>
      inBounds 2 0 60 whole && !fraction.isEmpty && fraction.all Char.isDigit

def isTime (text : List Char) : Bool :=
  match Text.splitChars [':'] text with
  | [hour, minute] => inBounds 2 0 23 hour && inBounds 2 0 59 minute
  | [hour, minute, second] => inBounds 2 0 23 hour && inBounds 2 0 59 minute && isSeconds second
  | _ => false

def isOffset (text : List Char) : Bool :=
  match text with
  | [] => true
  | [c] => c == 'Z' || c == 'z'
  | sign :: rest =>
      (sign == '+' || sign == '-') &&
        match Text.splitChars [':'] rest with
        | [hour, minute] => inBounds 2 0 23 hour && inBounds 2 0 59 minute
        | _ => false

def isTimeChar (c : Char) : Bool := c.isDigit || c == ':' || c == '.'

def isDateTime (text : List Char) : Bool :=
  let date := text.take 10
  let rest := text.drop 10
  isTime text ||
    (isDate date &&
      match rest with
      | [] => true
      | mark :: time =>
          (mark == 'T' || mark == 't' || mark == ' ') && isTime (time.takeWhile isTimeChar) &&
            isOffset (time.dropWhile isTimeChar))

example : isDateTime "1979-05-27T07:32:00.5-07:00".toList = true := by decide
example : isDateTime "1979-02-29".toList = false := by decide

/-! ## Words -/

def isWordChar (c : Char) : Bool :=
  c.isAlphanum || c == '_' || c == '+' || c == '-' || c == '.' || c == ':'

/-- The length of the word at the start of a text. A space may stand in it between a date and a
time. -/
def wordLength (text : List Char) : Nat :=
  let first := (text.takeWhile isWordChar).length
  match text.drop first with
  | ' ' :: digit :: rest =>
      if first == 10 && isDate (text.take 10) && digit.isDigit then
        11 + ((digit :: rest).takeWhile isWordChar).length
      else first
  | _ => first

def scalar? (word : List Char) : Option TomlValue :=
  if word = "true".toList then some (.boolean true)
  else if word = "false".toList then some (.boolean false)
  else if isDateTime word then some (.dateTime (String.ofList word))
  else
    match integer? word with
    | some value => some (.integer value)
    | none => if isFloat word then some (.float (String.ofList word)) else none

def readScalar (text : List Char) : Option (TomlValue × List Char) :=
  (scalar? (text.take (wordLength text))).map (·, text.drop (wordLength text))

end LiterateTest.Toml
