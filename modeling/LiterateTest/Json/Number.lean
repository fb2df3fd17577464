import LiterateTest.Number.Layout

/-! The numbers of JSON values: integers of 64 bits, with a sign or without, and finite
doubles. An integer and a double are different numbers even where they are equal in value. -/

namespace LiterateTest

inductive Number where
  | int (value : Int) (fits : -(2 ^ 63) ≤ value ∧ value < 2 ^ 64)
  | float (value : Float) (finite : value.isFinite = true)
  deriving DecidableEq

namespace Number

def ofInt? (value : Int) : Option Number :=
  if fits : -(2 ^ 63) ≤ value ∧ value < 2 ^ 64 then some (int value fits) else none

def ofFloat? (value : Float) : Option Number :=
  if finite : value.isFinite = true then some (float value finite) else none

def zero : Number := int 0 (by decide)

def one : Number := int 1 (by decide)

def signed? : Number → Option Int
  | int value _ => if value < 2 ^ 63 then some value else none
  | float _ _ => none

def ofSigned? (value : Int) : Option Number :=
  if fits : -(2 ^ 63) ≤ value ∧ value < 2 ^ 63 then
    some (int value ⟨fits.1, Int.lt_trans fits.2 (by decide)⟩)
  else none

def toFloat : Number → Float
  | int value _ => Double.ofInt value
  | float value _ => value

def isFloat : Number → Bool
  | int _ _ => false
  | float _ _ => true

def render : Number → String
  | int value _ => toString value
  | float value _ => FloatLayout.json.render value

def same : Number → Number → Bool
  | int left _, int right _ => left == right
  | float left _, float right _ => left == right
  | _, _ => false

instance : BEq Number := ⟨same⟩

end Number

end LiterateTest
