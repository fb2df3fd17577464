/-! Doubles as exact numbers: a sign, a natural number and a power of two. What a double
is exactly decides how it is truncated, divided with remainder, rounded and written. -/

-- Powers are those of core, whichever other ones are imported beside this library.
attribute [instance (high), default_instance (high + 1)] instPowNat

namespace LiterateTest

/-- The finite number `± magnitude * 2 ^ exponent`. -/
structure Dyadic where
  negative : Bool
  magnitude : Nat
  exponent : Int
  deriving DecidableEq, Repr

namespace Dyadic

/-- The number a double stands for; an infinity or a number that is none has no use for it. -/
def ofFloat (value : Float) : Dyadic :=
  let bits := value.toBits.toNat
  let negative := decide (2 ^ 63 ≤ bits)
  let fraction : Nat := bits % 2 ^ 52
  let biased : Nat := bits / 2 ^ 52 % 2 ^ 11
  if biased = 0 then ⟨negative, fraction, -1074⟩
  else ⟨negative, fraction + 2 ^ 52, (biased : Int) - 1075⟩

def shift (value : Nat) (amount : Int) : Nat :=
  if 0 ≤ amount then value * 2 ^ amount.toNat else value / 2 ^ (-amount).toNat

def toFloat (number : Dyadic) : Float :=
  let aligned : Int := number.exponent + (number.magnitude.log2 : Int) - 52
  let exponent : Int := if aligned < -1074 then -1074 else aligned
  let magnitude := shift number.magnitude (number.exponent - exponent)
  let unsigned :=
    if magnitude < 2 ^ 52 then magnitude
    else (exponent + 1075).toNat * 2 ^ 52 + (magnitude - 2 ^ 52)
  Float.ofBits (unsigned + if number.negative then 2 ^ 63 else 0).toUInt64

def truncate (number : Dyadic) : Int :=
  let magnitude : Int := shift number.magnitude number.exponent
  if number.negative then -magnitude else magnitude

def remainder (dividend divisor : Dyadic) : Dyadic :=
  let exponent := min dividend.exponent divisor.exponent
  let scaled := shift dividend.magnitude (dividend.exponent - exponent)
  let modulus := shift divisor.magnitude (divisor.exponent - exponent)
  ⟨dividend.negative, scaled % modulus, exponent⟩

end Dyadic

namespace Double

def infinity : Float := 1.0 / 0.0

def ofNat (value : Nat) : Float := value.toUInt64.toFloat

def ofInt (value : Int) : Float :=
  if value < 0 then -ofNat value.natAbs else ofNat value.natAbs

/-- The remainder of truncating division. It is no number when the dividend is infinite or
the divisor zero; an infinite divisor leaves the dividend as it is. -/
def remainder (dividend divisor : Float) : Float :=
  if !dividend.isFinite || divisor == 0 || divisor.isNaN then 0.0 / 0.0
  else if !divisor.isFinite then dividend
  else ((Dyadic.ofFloat dividend).remainder (Dyadic.ofFloat divisor)).toFloat

def truncateToInt64 (value : Float) : Int :=
  if value.isNaN then 0
  else if value.isInf then (if value < 0 then -(2 ^ 63) else 2 ^ 63 - 1)
  else max (-(2 ^ 63)) (min (2 ^ 63 - 1) (Dyadic.ofFloat value).truncate)

/-- `magnitude * 10 ^ exponent`, rounded to the nearest double. Exponents far outside the
range of doubles are decided without the power of ten. -/
def ofDecimal (magnitude : Nat) (exponent : Int) : Float :=
  let size : Int := (Nat.toDigits 10 magnitude).length + exponent
  if magnitude = 0 || size < -400 then 0
  else if 400 < size then infinity
  else Float.ofScientific magnitude (exponent < 0) exponent.natAbs

end Double

end LiterateTest
