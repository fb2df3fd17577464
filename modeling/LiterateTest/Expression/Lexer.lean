import LiterateTest.Expression.Token
import LiterateTest.Number.Reading

/-! Source text to tokens. Each reader below takes what follows the first character of a token
and says how many further characters belong to it. -/

namespace LiterateTest.Expression

inductive LexFault where
  | unterminatedString
  | unexpectedCharacter (c : Char)
  | integerTooLarge (digits : List Char)
  deriving DecidableEq

def leadByte (c : Char) : Nat :=
  ((String.singleton c).toUTF8.toList.head?.getD 0).toNat

/-- An unexpected character outside ASCII is shown by its first byte alone. -/
def LexFault.message : LexFault → String
  | unterminatedString => "unterminated string literal"
  | unexpectedCharacter c =>
      "unexpected character '" ++ String.singleton (Char.ofNat (leadByte c)) ++ "'"
  | integerTooLarge digits =>
      "invalid number '" ++ String.ofList digits ++ "': " ++ IntegerFault.tooLarge.message

/-! ## Strings -/

/-- What an escape stands for. One that is not known keeps its backslash, so that the classes
of a pattern need no second backslash. -/
def unescape (quote escaped : Char) : List Char :=
  match escaped with
  | 'n' => ['\n']
  | 't' => ['\t']
  | 'r' => ['\r']
  | '\\' => ['\\']
  | other => if other = quote then [other] else ['\\', other]

def lexString? (quote : Char) : List Char → Option (List Char × Nat)
  | [] => none
  | ['\\'] => none
  | '\\' :: escaped :: rest =>
      (lexString? quote rest).map fun (text, taken) => (unescape quote escaped ++ text, taken + 2)
  | c :: rest =>
      if c = quote then some ([], 1)
      else (lexString? quote rest).map fun (text, taken) => (c :: text, taken + 1)

example : lexString? '"' "\\d\\n\" rest".toList = some (['\\', 'd', '\n'], 5) := by decide

/-! ## Numbers -/

structure NumberText where
  whole : List Char
  /-- Digits after a point; a point belongs to the number only if a digit follows it. -/
  fraction : List Char
  /-- The exponent mark with sign and digits; it belongs to the number only with a digit. -/
  exponent : List Char

namespace NumberText

def fractionOf : List Char → List Char
  | '.' :: rest => rest.takeWhile Char.isDigit
  | _ => []

def exponentOf : List Char → List Char
  | mark :: rest =>
      if mark = 'e' || mark = 'E' then
        let sign := match rest with
          | '+' :: _ => ['+']
          | '-' :: _ => ['-']
          | _ => []
        let digits := (rest.drop sign.length).takeWhile Char.isDigit
        if digits.isEmpty then [] else mark :: sign ++ digits
      else []
  | [] => []

def fractionLength (number : NumberText) : Nat :=
  if number.fraction.isEmpty then 0 else number.fraction.length + 1

def ofChars (text : List Char) : NumberText :=
  let whole := text.takeWhile Char.isDigit
  let afterWhole := text.drop whole.length
  let fraction := fractionOf afterWhole
  let afterFraction := afterWhole.drop (if fraction.isEmpty then 0 else fraction.length + 1)
  ⟨whole, fraction, exponentOf afterFraction⟩

def length (number : NumberText) : Nat :=
  number.whole.length + number.fractionLength + number.exponent.length

def exponentValue (number : NumberText) : Int :=
  (Double.readExponent? number.exponent).getD 0

def token (number : NumberText) : Except LexFault Token :=
  if number.fraction.isEmpty && number.exponent.isEmpty then
    let value := Integer.ofDigits 10 number.whole
    if fits : value < 2 ^ 63 then .ok (.int ⟨value, fits⟩)
    else .error (.integerTooLarge number.whole)
  else
    let digits := Integer.ofDigits 10 (number.whole ++ number.fraction)
    .ok (.float (Double.ofDecimal digits (number.exponentValue - number.fraction.length)))

end NumberText

/-! ## Operators -/

def operatorPair? : Char → Char → Option Token
  | '=', '=' => some .equal
  | '!', '=' => some .notEqual
  | '<', '=' => some .lessEqual
  | '>', '=' => some .greaterEqual
  | '&', '&' => some .andAnd
  | '|', '|' => some .orOr
  | _, _ => none

def operator? : Char → Option Token
  | '(' => some .leftParen
  | ')' => some .rightParen
  | '[' => some .leftBracket
  | ']' => some .rightBracket
  | '\x7b' => some .leftBrace
  | '\x7d' => some .rightBrace
  | '.' => some .dot
  | ',' => some .comma
  | ':' => some .colon
  | '?' => some .question
  | '!' => some .bang
  | '+' => some .plus
  | '-' => some .minus
  | '*' => some .star
  | '/' => some .slash
  | '%' => some .percent
  | '<' => some .less
  | '>' => some .greater
  | _ => none

def lexOperator (c : Char) (rest : List Char) : Except LexFault (Token × Nat) :=
  match rest.head?.bind (operatorPair? c) with
  | some token => .ok (token, 1)
  | none =>
      match operator? c with
      | some token => .ok (token, 0)
      | none => .error (.unexpectedCharacter c)

/-! ## Tokens -/

/-- The token that starts with `c`, and how many characters of `rest` belong to it. -/
def lexToken (c : Char) (rest : List Char) : Except LexFault (Token × Nat) :=
  if c = '"' ∨ c = '\'' then
    match lexString? c rest with
    | some (text, taken) => .ok (.string (String.ofList text), taken)
    | none => .error .unterminatedString
  else if c.isDigit then
    let number := NumberText.ofChars (c :: rest)
    number.token.map fun token => (token, number.length - 1)
  else if Text.isWordStart c then
    let tail := rest.takeWhile Text.isWordRest
    .ok (Token.ofWord (String.ofList (c :: tail)), tail.length)
  else
    lexOperator c rest

/-- The tokens of a text that starts at byte `offset`. Of the token read last, `ahead`
characters are still to be passed. -/
def scan : (offset ahead : Nat) → List Char → Except (Nat × LexFault) (List Lexeme)
  | _, _, [] => .ok []
  | offset, ahead + 1, c :: rest => scan (offset + c.utf8Size) ahead rest
  | offset, 0, c :: rest =>
      if Text.isAsciiBlank c then
        scan (offset + c.utf8Size) 0 rest
      else
        match lexToken c rest with
        | .error fault => .error (offset, fault)
        | .ok (token, ahead) =>
            (scan (offset + c.utf8Size) ahead rest).map (⟨token, offset⟩ :: ·)

def tokenize (source : String) : Except (Nat × LexFault) (List Lexeme) :=
  scan 0 0 source.toList

example : tokenize "a == 1" = .ok [⟨.word "a", 0⟩, ⟨.equal, 2⟩, ⟨.int 1, 5⟩] := by rfl

end LiterateTest.Expression
