import LiterateTest.Number.Shortest

/-! How a double is written: its shortest digits, laid out with or without an exponent. -/

namespace LiterateTest

structure FloatLayout where
  /-- Which powers of ten of the first digit are written without an exponent. -/
  positional : Int → Bool
  /-- Whether a whole number written without an exponent keeps `.0`. -/
  keepsFraction : Bool
  /-- Whether a positive exponent has a plus sign. -/
  signsExponent : Bool

namespace FloatLayout

def json : FloatLayout :=
  ⟨fun exponent => -5 ≤ exponent && exponent < 16, true, true⟩

def yaml : FloatLayout :=
  ⟨fun exponent => -5 ≤ exponent && exponent < 16, true, false⟩

def diagnostic : FloatLayout :=
  ⟨fun exponent => -4 ≤ exponent && exponent < 16, true, false⟩

def plain : FloatLayout :=
  ⟨fun _ => true, false, false⟩

def zeros (count : Int) : List Char := List.replicate count.toNat '0'

def positionalText (layout : FloatLayout) (digits : List Char) (exponent : Int) : List Char :=
  if exponent < 0 then
    '0' :: '.' :: zeros (-exponent - 1) ++ digits
  else if digits.length ≤ exponent.toNat + 1 then
    digits ++ zeros (exponent + 1 - digits.length)
      ++ (if layout.keepsFraction then ['.', '0'] else [])
  else
    digits.take (exponent.toNat + 1) ++ '.' :: digits.drop (exponent.toNat + 1)

def exponentText (layout : FloatLayout) (digits : List Char) (exponent : Int) : List Char :=
  let fraction := match digits.drop 1 with
    | [] => []
    | rest => '.' :: rest
  let sign := if exponent < 0 then ['-'] else if layout.signsExponent then ['+'] else []
  digits.take 1 ++ fraction ++ 'e' :: sign ++ Nat.toDigits 10 exponent.natAbs

def render (layout : FloatLayout) (value : Float) : String :=
  if value.isNaN then "NaN" else
  let number := Dyadic.ofFloat value
  let sign := if number.negative then ['-'] else []
  if value.isInf then String.ofList (sign ++ ['i', 'n', 'f']) else
  let (digits, exponent) := (Decimal.shortest number).scientific
  String.ofList <| sign ++
    if layout.positional exponent then layout.positionalText digits exponent
    else layout.exponentText digits exponent

end FloatLayout

end LiterateTest
