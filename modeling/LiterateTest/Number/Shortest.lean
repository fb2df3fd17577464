import LiterateTest.Number.Double

/-! The shortest decimal that reads back as a given double: of the decimals with the fewest
digits that round to it, the one nearest to it, and of two equally near the one with an even
last digit. -/

namespace LiterateTest

/-- The number `digits * 10 ^ exponent`. -/
structure Decimal where
  digits : Nat
  exponent : Int
  deriving DecidableEq, Repr

namespace Decimal

structure RoundingInterval where
  low : Nat
  value : Nat
  high : Nat
  denominator : Nat
  closed : Bool

/-- The numbers that round to a double, counted in units of `10 ^ unit`. Below a power of two
doubles lie closer, so the lower end is nearer there. -/
def roundingInterval (number : Dyadic) (unit : Int) : RoundingInterval :=
  let scale := 2 ^ (number.exponent - 2).toNat * 10 ^ (-unit).toNat
  let denominator := 2 ^ (2 - number.exponent).toNat * 10 ^ unit.toNat
  let gap := if number.magnitude = 2 ^ 52 && -1074 < number.exponent then 1 else 2
  { low := (4 * number.magnitude - gap) * scale
    value := 4 * number.magnitude * scale
    high := (4 * number.magnitude + 2) * scale
    denominator
    closed := number.magnitude % 2 = 0 }

def RoundingInterval.admits (interval : RoundingInterval) (candidate : Nat) : Bool :=
  let point := candidate * interval.denominator
  if interval.closed then interval.low ≤ point && point ≤ interval.high
  else interval.low < point && point < interval.high

def RoundingInterval.nearest? (interval : RoundingInterval) : Option Nat :=
  let below := interval.value / interval.denominator
  let excess := 2 * (interval.value % interval.denominator)
  let preferBelow :=
    excess < interval.denominator || (excess == interval.denominator && below % 2 == 0)
  match interval.admits below, interval.admits (below + 1) with
  | true, true => some (if preferBelow then below else below + 1)
  | true, false => some below
  | false, true => some (below + 1)
  | false, false => none

def leadingExponent (number : Dyadic) : Int :=
  let scaled := Dyadic.shift (number.magnitude * 10 ^ 400) number.exponent
  ((Nat.toDigits 10 scaled).length : Int) - 401

/-- Tries decimals of more and more digits; seventeen always suffice. -/
def searchShortest (number : Dyadic) (leading : Int) : (digitCount remaining : Nat) → Decimal
  | digitCount, 0 =>
      let unit := leading - digitCount
      ⟨((roundingInterval number unit).nearest?).getD 0, unit⟩
  | digitCount, remaining + 1 =>
      let unit := leading - digitCount
      match (roundingInterval number unit).nearest? with
      | some digits => ⟨digits, unit⟩
      | none => searchShortest number leading (digitCount + 1) remaining

def shortest (number : Dyadic) : Decimal :=
  if number.magnitude = 0 then ⟨0, 0⟩
  else searchShortest number (leadingExponent number) 0 16

def scientific (decimal : Decimal) : List Char × Int :=
  let digits := Nat.toDigits 10 decimal.digits
  let kept := (digits.reverse.dropWhile (· == '0')).reverse
  (if kept.isEmpty then ['0'] else kept, decimal.exponent + digits.length - 1)

end Decimal

end LiterateTest
