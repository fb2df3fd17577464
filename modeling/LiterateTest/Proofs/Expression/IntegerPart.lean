import LiterateTest.Proofs.Expression.Conjunction
import LiterateTest.Proofs.Number.Truncation

/-! Conversion of numbers to integers. The result is always an integer of the signed 64-bit range:
the integer part of the number, or the closest integer of the range where the integer part is not in
it. -/

namespace LiterateTest.Expression

open Double

theorem ofInteger_clamped (value : Int) :
    ∃ number : Number, number.signed? = some (clamped value) ∧
      ofInteger (clamped value) = .number number := by
  have inRange : -(2 ^ 63) ≤ clamped value ∧ clamped value < 2 ^ 63 := by
    rw [clamped]
    omega
  have fits : -(2 ^ 63) ≤ clamped value ∧ clamped value < 2 ^ 64 := by omega
  refine ⟨.int (clamped value) fits, if_pos inRange.2, ?_⟩
  rw [ofInteger, Number.ofInt?, dif_pos fits]

theorem clamped_nearestInt {value : Int} (large : 2 ^ 63 ≤ value) :
    clamped (nearestInt value) = clamped value := by
  have above : nearestInt (2 ^ 63) ≤ nearestInt value := nearestInt_mono large
  have least : nearestInt (2 ^ 63) = 2 ^ 63 := by decide
  rw [clamped, clamped]
  omega

theorem toInt_number (number : Number) :
    toInt (.number number) = .ok (ofInteger (clamped (integerPart number.exactValue))) := by
  cases number with
  | int value fits =>
      rw [Number.exactValue, integerPart_intCast, toInt, Number.signed?]
      by_cases small : value < 2 ^ 63
      · rw [if_pos small, clamped_eq_iff.mpr ⟨fits.1, small⟩]
      · have means := means_ofInt fits
        rw [if_neg small, Number.toFloat, truncateToInt64_eq means.isFinite,
          StandsFor.exactValue means, integerPart_intCast, clamped_nearestInt (Int.not_lt.mp small)]
  | float value finite =>
      rw [Number.exactValue, toInt, Number.signed?, Number.toFloat, truncateToInt64_eq finite]

/-- Whether a number is converted to an integer as it should be: to its integer part, or not at all
where that is no integer of the signed 64-bit range. -/
def ConvertsExactly (number : Number) (outcome : Except Fault Json) : Prop :=
  (∃ result : Number, result.signed? = some (integerPart number.exactValue) ∧
      outcome = .ok (.number result)) ∨
    ¬(-(2 ^ 63) ≤ integerPart number.exactValue ∧ integerPart number.exactValue < 2 ^ 63) ∧
      ∃ fault, outcome = .error (.value fault)

/-- The conversion of a number never fails: it gives the integer of the signed 64-bit range that is
closest to the integer part. So it is exact just where the integer part is in the range. -/
theorem evaluateIn_call_int {scope : Scope} {argument : Expr} {number : Number}
    (evaluates : evaluateIn scope argument = .ok (.number number)) :
    (∃ result : Number, result.signed? = some (clamped (integerPart number.exactValue)) ∧
      evaluateIn scope (.call "int" [argument]) = .ok (.number result)) ∧
    (ConvertsExactly number (evaluateIn scope (.call "int" [argument])) ↔
      -(2 ^ 63) ≤ integerPart number.exactValue ∧ integerPart number.exactValue < 2 ^ 63) := by
  have value : evaluateIn scope (.call "int" [argument]) =
      .ok (ofInteger (clamped (integerPart number.exactValue))) := by
    rw [← toInt_number, evaluateIn, if_neg (by decide), evaluateItems, evaluates, evaluateItems]
    rfl
  rcases ofInteger_clamped (integerPart number.exactValue) with ⟨result, signed, same⟩
  rw [value, same]
  refine ⟨⟨result, signed, rfl⟩, ?_⟩
  rw [← clamped_eq_iff]
  constructor
  · rintro (⟨exactly, exact, isResult⟩ | ⟨-, fault, failed⟩)
    · cases isResult
      exact Option.some.inj (signed.symm.trans exact)
    · cases failed
  · intro inRange
    rw [inRange] at signed
    exact .inl ⟨result, signed, rfl⟩

theorem evaluateIn_call_int_of_fraction :
    let number : Number := .float (Float.ofBits 0xC004000000000000) (by decide)
    evaluateIn ⟨[], [("a", .number number)]⟩ (.reference "a") = .ok (.number number) ∧
      ConvertsExactly number
        (evaluateIn ⟨[], [("a", .number number)]⟩ (.call "int" [.reference "a"])) ∧
      integerPart number.exactValue = -2 := by
  intro number
  have evaluates : evaluateIn ⟨[], [("a", .number number)]⟩ (.reference "a") =
      .ok (.number number) := by
    rw [evaluateIn]
    rfl
  have exactly : number.exactValue = -(5 * 2 ^ 50 : Int) * 2 ^ (-51 : Int) := rfl
  have part : integerPart number.exactValue = -2 := by
    rw [exactly, integerPart]
    norm_num
  refine ⟨evaluates, (evaluateIn_call_int evaluates).2.mpr ?_, part⟩
  rw [part]
  decide

theorem evaluateSource_int (number : Number) :
    evaluateSource [("a", .number number)] "int(a)" =
      .ok (ofInteger (clamped (integerPart number.exactValue))) := by
  have parsed : parse "int(a)" = .ok (.call "int" [.reference "a"]) := rfl
  rw [evaluateSource_eq, parsed, ← toInt_number]
  change evaluate [("a", .number number)] (.call "int" [.reference "a"]) = _
  rw [evaluate, evaluateIn, if_neg (by decide), evaluateItems, evaluateIn, evaluateItems]
  rfl

/-- The first integer above the signed range, and a double above it, ten to the power of nineteen:
both are taken for the last integer of the range. -/
theorem evaluateSource_int_exceptions :
    evaluateSource [("a", .number (.int (2 ^ 63) (by decide)))] "int(a)" =
        .ok (.number (.int (2 ^ 63 - 1) (by decide))) ∧
      evaluateSource [("a", .number (.float (Float.ofBits 0x43E158E460913D00) (by decide)))]
        "int(a)" = .ok (.number (.int (2 ^ 63 - 1) (by decide))) := by
  constructor
  · rw [evaluateSource_int, Number.exactValue, integerPart_intCast]
    rfl
  · have exactly : (Number.float (Float.ofBits 0x43E158E460913D00) (by decide)).exactValue =
        ((10 ^ 19 : Int) : ℚ) := by
      have spelled : (Number.float (Float.ofBits 0x43E158E460913D00) (by decide)).exactValue =
          (4882812500000000 : Int) * 2 ^ (11 : Int) := rfl
      rw [spelled]
      norm_num
    rw [evaluateSource_int, exactly, integerPart_intCast]
    rfl

end LiterateTest.Expression
