import Mathlib
import LiterateTest.Json.Number
import LiterateTest.Proofs.Number.Conversion

/-! The rational numbers that doubles stand for, and their integer parts. -/

namespace LiterateTest

open Float.Model UnpackedFloat

/-! ## Values -/

namespace Double

/-- The number that an unpacked double stands for, unless it is infinite or no number. -/
def exactValue : UnpackedFloat → ℚ
  | .finite sign mantissa exponent _ => sign.apply mantissa * 2 ^ exponent
  | _ => 0

theorem StandsFor.exactValue {unpacked : UnpackedFloat} {number : Int}
    (stands : StandsFor unpacked number) : exactValue unpacked = number := by
  cases stands with
  | zero sign => simp [Double.exactValue]
  | @finite sign mantissa scale _ positive low high scaled value =>
      have exact : (sign.apply mantissa : ℚ) * 2 ^ scale = number * 2 ^ 52 := by
        rw [← Int.cast_ofNat, ← Int.cast_pow, ← Int.cast_pow, ← Int.cast_mul, ← Int.cast_mul,
          ← value]
        cases sign <;> simp [Sign.apply]
      rw [Double.exactValue, zpow_sub₀ two_ne_zero, ← mul_div_assoc, zpow_natCast, exact]
      exact mul_div_cancel_right₀ _ (by positivity)

end Double

namespace Dyadic

def exactValue (number : Dyadic) : ℚ :=
  (if number.negative then -1 else 1) * number.magnitude * 2 ^ number.exponent

end Dyadic

namespace Number

def exactValue : Number → ℚ
  | .int value _ => value
  | .float value _ => Double.exactValue value.toModel.unpack

end Number

/-! ## Integer parts -/

def integerPart (number : ℚ) : Int :=
  if number < 0 then ⌈number⌉ else ⌊number⌋

theorem integerPart_intCast (number : Int) : integerPart number = number := by
  rw [integerPart]
  split <;> simp

theorem integerPart_of_nonneg {number : ℚ} (nonneg : 0 ≤ number) : integerPart number = ⌊number⌋ :=
  if_neg (not_lt.mpr nonneg)

theorem integerPart_neg (number : ℚ) : integerPart (-number) = -integerPart number := by
  rw [integerPart, integerPart]
  rcases lt_trichotomy number 0 with negative | rfl | positive
  · rw [if_neg (by linarith), if_pos negative, Int.floor_neg]
  · simp
  · rw [if_pos (by linarith), if_neg (by linarith), Int.ceil_neg]

theorem floor_mul_zpow (magnitude : Nat) (exponent : Int) :
    ⌊(magnitude * 2 ^ exponent : ℚ)⌋ = Dyadic.shift magnitude exponent := by
  rw [Dyadic.shift]
  split
  · next nonneg =>
      obtain ⟨bits, rfl⟩ := Int.eq_ofNat_of_zero_le nonneg
      rw [zpow_natCast, Int.toNat_natCast]
      exact_mod_cast Int.floor_natCast (R := ℚ) (magnitude * 2 ^ bits)
  · next negative =>
      obtain ⟨bits, rfl⟩ : ∃ bits : Nat, exponent = -bits := ⟨(-exponent).toNat, by omega⟩
      rw [zpow_neg, zpow_natCast, ← div_eq_mul_inv, Int.neg_neg, Int.toNat_natCast]
      exact_mod_cast Rat.floor_natCast_div_natCast magnitude (2 ^ bits)

theorem Dyadic.truncate_eq (number : Dyadic) : number.truncate = integerPart number.exactValue := by
  have nonneg : (0 : ℚ) ≤ number.magnitude * 2 ^ number.exponent := by positivity
  have magnitude := (integerPart_of_nonneg nonneg).trans (floor_mul_zpow _ _)
  rw [Dyadic.truncate, Dyadic.exactValue]
  split
  · rw [neg_mul, one_mul, neg_mul, integerPart_neg, magnitude]
  · rw [one_mul, magnitude]

/-! ## Bits -/

namespace Double

section Bits

variable (bits : BitVec 64)

theorem toNat_unpackMantissa :
    (@unpackMantissa .binary64 bits).toNat = bits.toNat % 2 ^ 52 := by
  simp [unpackMantissa]

theorem toNat_unpackExponent :
    (@unpackExponent .binary64 bits).toNat = bits.toNat / 2 ^ 52 % 2 ^ 11 := by
  simp [unpackExponent, Nat.shiftRight_eq_div_pow]

theorem ofBitVec_unpackSign :
    Sign.ofBitVec (@unpackSign .binary64 bits) =
      if 2 ^ 63 ≤ bits.toNat then .negative else .positive := by
  have size := bits.isLt
  have sign : (@unpackSign .binary64 bits).toNat = bits.toNat / 2 ^ 63 % 2 := by
    simp [unpackSign, Nat.shiftRight_eq_div_pow]
  have zero : @unpackSign .binary64 bits = 0#1 ↔ ¬2 ^ 63 ≤ bits.toNat := by
    rw [← BitVec.toNat_inj, sign, BitVec.toNat_ofNat]
    omega
  rw [Sign.ofBitVec]
  split
  · next isZero => rw [if_neg (zero.mp isZero)]
  · next notZero => rw [if_pos (not_not.mp (mt zero.mpr notZero))]

end Bits

theorem isNumber_of_isFinite {value : Float} (finite : value.isFinite = true) :
    value.isNaN = false ∧ value.isInf = false := by
  change value.toModel.unpack.isFinite = true at finite
  change value.toModel.unpack.isNaN = false ∧ value.toModel.unpack.isInf = false
  cases unpacked : value.toModel.unpack with
  | zero | finite => exact ⟨rfl, rfl⟩
  | infinity | notANumber =>
      rw [unpacked] at finite
      cases finite

theorem exactValue_finite {isNegative : Prop} [Decidable isNegative] {mantissa : Nat}
    (positive : 0 < mantissa) (exponent : Int) :
    (Dyadic.mk (decide isNegative) mantissa exponent).exactValue =
      exactValue
        (.finite (if isNegative then .negative else .positive) mantissa exponent positive) := by
  rw [Dyadic.exactValue, exactValue]
  by_cases negative : isNegative
  · simp [negative, Sign.apply]
  · simp [negative, Sign.apply]

theorem exactValue_ofFloat {value : Float} (finite : value.isFinite = true) :
    (Dyadic.ofFloat value).exactValue = exactValue value.toModel.unpack := by
  let bits : BitVec 64 := value.toBits.toBitVec
  let fraction : BitVec 52 := @unpackMantissa .binary64 bits
  let biased : BitVec 11 := @unpackExponent .binary64 bits
  have spelled : Dyadic.ofFloat value =
      if biased.toNat = 0 then ⟨decide (2 ^ 63 ≤ bits.toNat), fraction.toNat, -1074⟩
      else
        ⟨decide (2 ^ 63 ≤ bits.toNat), fraction.toNat + 2 ^ 52, (biased.toNat : Int) - 1075⟩ := by
    rw [toNat_unpackMantissa, toNat_unpackExponent]
    rfl
  have unpacked : value.toModel.unpack = UnpackedFloat.unpack .binary64 bits := rfl
  have bias : (Format.binary64.exponentBias : Int) + (52 : Nat) = 1075 := rfl
  change value.toModel.unpack.isFinite = true at finite
  rw [unpacked, UnpackedFloat.unpack] at finite ⊢
  dsimp only at finite ⊢
  rw [ofBitVec_unpackSign] at finite ⊢
  rw [spelled]
  split at finite
  · split at finite <;> cases finite
  · next notAll =>
      rw [if_neg notAll]
      by_cases isSmall : biased.toNat = 0
      · have none : biased = 0#11 := BitVec.eq_of_toNat_eq isSmall
        rw [if_pos none, if_pos isSmall]
        split
        · next isZero =>
            have fractionZero : fraction.toNat = 0 := congrArg BitVec.toNat isZero
            rw [fractionZero]
            simp [Dyadic.exactValue, exactValue]
        · next notZero =>
            rw [← exactValue_finite]
            have exponent : (biased.toNat : Int) - 1075 + 1 = -1074 := by omega
            rw [bias, exponent]
      · have some : biased ≠ 0#11 := fun none => isSmall (congrArg BitVec.toNat none)
        rw [if_neg some, if_neg isSmall, ← exactValue_finite, bias]
        rw [← toNat_implicit_append]

/-! ## Conversion to integers -/

def clamped (value : Int) : Int := max (-(2 ^ 63)) (min (2 ^ 63 - 1) value)

theorem clamped_eq_iff {value : Int} :
    clamped value = value ↔ -(2 ^ 63) ≤ value ∧ value < 2 ^ 63 := by
  rw [clamped]
  omega

theorem truncateToInt64_eq {value : Float} (finite : value.isFinite = true) :
    truncateToInt64 value = clamped (integerPart (exactValue value.toModel.unpack)) := by
  have isNumber := isNumber_of_isFinite finite
  rw [truncateToInt64, isNumber.1, isNumber.2, Dyadic.truncate_eq, exactValue_ofFloat finite]
  rfl

end Double

end LiterateTest
