import LiterateTest.Number.Layout
import LiterateTest.Number.Reading

/-! Durations, to the nanosecond. -/

namespace LiterateTest

structure Duration where
  nanoseconds : Nat
  deriving DecidableEq, Repr

namespace Duration

def zero : Duration := ⟨0⟩

def perSecond : Nat := 10 ^ 9

def seconds (duration : Duration) : Nat := duration.nanoseconds / perSecond

def subsecond (duration : Duration) : Nat := duration.nanoseconds % perSecond

def ofSeconds (count : Nat) : Duration := ⟨count * perSecond⟩

def ofMilliseconds (count : Nat) : Duration := ⟨count * 10 ^ 6⟩

/-- The quotient rounded to the nearest whole number, a half to the even one. -/
def divideToNearest (dividend divisor : Nat) : Nat :=
  let quotient := dividend / divisor
  let excess := 2 * (dividend % divisor)
  if divisor < excess || (excess == divisor && quotient % 2 == 1) then quotient + 1 else quotient

/-- The duration nearest to a number of seconds. There is none for a number that is negative,
infinite or no number, or whose whole seconds need more than 64 bits. -/
def ofFloat? (value : Float) : Option Duration :=
  let number := Dyadic.ofFloat value
  if value.isNaN || value.isInf || value < 0 then none
  else
    let scaled := number.magnitude * perSecond
    let nanoseconds :=
      if 0 ≤ number.exponent then scaled * 2 ^ number.exponent.toNat
      else divideToNearest scaled (2 ^ (-number.exponent).toNat)
    if nanoseconds / perSecond < 2 ^ 64 then some ⟨nanoseconds⟩ else none

def toFloat (duration : Duration) : Float :=
  Double.ofNat duration.seconds + Double.ofNat duration.subsecond / Double.ofNat perSecond

/-! ## Durations in text

A number with a unit of milliseconds, seconds, minutes or hours, or of seconds where none is
given. -/

inductive ReadFault where
  /-- The text is no duration. -/
  | invalid
  /-- The text is a duration, and longer than any that can be held. -/
  | outOfRange
  deriving DecidableEq, Repr

def splitUnit (text : String) : String × Float :=
  match Text.dropTail? text "ms", Text.dropTail? text "s", Text.dropTail? text "m",
      Text.dropTail? text "h" with
  | some number, _, _, _ => (number, 0.001)
  | none, some number, _, _ => (number, 1.0)
  | none, none, some number, _ => (number, 60.0)
  | none, none, none, some number => (number, 3600.0)
  | none, none, none, none => (text, 1.0)

def read (text : String) : Except ReadFault Duration :=
  let (number, scale) := splitUnit (Text.trim text)
  match Double.read? (Text.trimChars number.toList) with
  | none => .error .invalid
  | some value =>
      if !value.isFinite || value < 0 then .error .invalid
      else
        match ofFloat? (value * scale) with
        | some duration => .ok duration
        | none => .error .outOfRange

def secondsText (duration : Duration) : String := FloatLayout.plain.render duration.toFloat

end Duration

end LiterateTest
