import LiterateTest.Number.Double
import LiterateTest.Text.Basic

/-! Reading numbers from decimal text. -/

namespace LiterateTest

/-! ## Integers -/

inductive IntegerFault where
  | empty
  | invalidDigit
  | tooLarge
  | tooSmall
  deriving DecidableEq, Repr

namespace IntegerFault

def message : IntegerFault → String
  | empty => "cannot parse integer from empty string"
  | invalidDigit => "invalid digit found in string"
  | tooLarge => "number too large to fit in target type"
  | tooSmall => "number too small to fit in target type"

end IntegerFault

namespace Integer

def digitValue (c : Char) : Nat := c.toNat - 48

/-- Reads digits from left to right and stops at the first fault, be it a character that is
no digit or a value above the limit. -/
def readDigits (limit : Nat) (outOfRange : IntegerFault) :
    (value : Nat) → List Char → Except IntegerFault Nat
  | value, [] => .ok value
  | value, c :: rest =>
      if !c.isDigit then .error .invalidDigit
      else
        let next := value * 10 + digitValue c
        if limit < next then .error outOfRange
        else readDigits limit outOfRange next rest

def readWithin (limit : Nat) : List Char → Except IntegerFault Int
  | [] => .error .empty
  | ['+'] => .error .invalidDigit
  | ['-'] => .error .invalidDigit
  | '-' :: digits => (readDigits limit .tooSmall 0 digits).map fun value => -(value : Int)
  | '+' :: digits => (readDigits (limit - 1) .tooLarge 0 digits).map Int.ofNat
  | digits => (readDigits (limit - 1) .tooLarge 0 digits).map Int.ofNat

def readSigned : List Char → Except IntegerFault Int := readWithin (2 ^ 63)

def readInt32? (text : String) : Option Int := (readWithin (2 ^ 31) text.toList).toOption

def readInt64? (text : String) : Option Int := (readSigned text.toList).toOption

example : readSigned "-9223372036854775808".toList = .ok (-9223372036854775808) := by rfl
example : readSigned "99999999999999999999x".toList = .error .tooLarge := by rfl

def ofDigits (base : Nat) (digits : List Char) : Nat :=
  digits.foldl (fun value c => value * base + hexValue c) 0
where
  hexValue (c : Char) : Nat :=
    if c.isDigit then c.toNat - 48
    else if 'a' ≤ c && c ≤ 'f' then c.toNat - 87
    else c.toNat - 55

def isHexDigit (c : Char) : Bool :=
  c.isDigit || ('a' ≤ c && c ≤ 'f') || ('A' ≤ c && c ≤ 'F')

end Integer

/-! ## Doubles -/

namespace Double

def readExponent? : List Char → Option Int
  | [] => some 0
  | mark :: rest =>
      if mark = 'e' || mark = 'E' then
        let (negative, digits) := match rest with
          | '-' :: digits => (true, digits)
          | '+' :: digits => (false, digits)
          | digits => (false, digits)
        if digits.isEmpty || !digits.all Char.isDigit then none
        else
          let value : Int := Integer.ofDigits 10 digits
          some (if negative then -value else value)
      else none

def readUnsigned? (text : List Char) : Option Float :=
  let whole := text.takeWhile Char.isDigit
  let afterWhole := text.dropWhile Char.isDigit
  let (fraction, afterFraction) := match afterWhole with
    | '.' :: rest => (rest.takeWhile Char.isDigit, rest.dropWhile Char.isDigit)
    | rest => ([], rest)
  if whole.isEmpty && fraction.isEmpty then none
  else
    (readExponent? afterFraction).map fun exponent =>
      ofDecimal (Integer.ofDigits 10 (whole ++ fraction)) (exponent - fraction.length)

def read? (text : List Char) : Option Float :=
  let (negative, unsigned) := match text with
    | '-' :: rest => (true, rest)
    | '+' :: rest => (false, rest)
    | rest => (false, rest)
  let name := String.ofList (unsigned.map Char.toLower)
  let magnitude :=
    if name = "inf" || name = "infinity" then some infinity
    else if name = "nan" then some (0.0 / 0.0)
    else readUnsigned? unsigned
  magnitude.map fun value => if negative then -value else value

end Double

end LiterateTest
