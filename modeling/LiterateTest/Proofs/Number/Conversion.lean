import Mathlib
import LiterateTest.Proofs.Number.Rounding

/-! Integers as doubles. The double that is made from an integer of at most 64 bits stands for the
nearest number that a double can stand for, and such doubles are ordered as what they stand for. -/

namespace LiterateTest.Double

open Float.Model UnpackedFloat

/-! ## Doubles that stand for integers -/

/-- Whether an unpacked double stands for an integer, with all 53 bits of its mantissa in use. -/
inductive StandsFor : UnpackedFloat → Int → Prop
  | zero (sign : Sign) : StandsFor (.zero sign) 0
  | finite {sign : Sign} {mantissa scale : Nat} {number : Int} (positive : 0 < mantissa)
      (low : 2 ^ 52 ≤ mantissa) (high : mantissa < 2 ^ 53) (scaled : scale < 1024)
      (value : sign.apply (mantissa * 2 ^ scale : Nat) = number * 2 ^ 52) :
      StandsFor (.finite sign mantissa (scale - 52) positive) number

/-! ## Order -/

theorem compare_congr {α β : Type} [Ord α] [LT α] [LE α] [Std.LawfulOrderOrd α]
    [Std.LawfulOrderLT α] [Ord β] [LT β] [LE β] [Std.LawfulOrderOrd β] [Std.LawfulOrderLT β]
    {first second : α} {image other : β} (less : first < second ↔ image < other)
    (greater : second < first ↔ other < image) : compare first second = compare image other := by
  cases ordering : compare first second with
  | lt => exact (Std.compare_eq_lt.mpr (less.mp (Std.compare_eq_lt.mp ordering))).symm
  | gt => exact (Std.compare_eq_gt.mpr (greater.mp (Std.compare_eq_gt.mp ordering))).symm
  | eq =>
      cases images : compare image other with
      | eq => rfl
      | lt =>
          have contrary := Std.compare_eq_lt.mpr (less.mpr (Std.compare_eq_lt.mp images))
          rw [ordering] at contrary
          cases contrary
      | gt =>
          have contrary := Std.compare_eq_gt.mpr (greater.mpr (Std.compare_eq_gt.mp images))
          rw [ordering] at contrary
          cases contrary

theorem compare_scaled {first second : Nat} (low : 2 ^ 52 ≤ first) (high : first < 2 ^ 53)
    (lowSecond : 2 ^ 52 ≤ second) (highSecond : second < 2 ^ 53) (scale other : Nat) :
    (compare (scale - 52 : Int) (other - 52)).then (compare first second) =
      compare (first * 2 ^ scale) (second * 2 ^ other) := by
  have less {first second : Nat} (high : first < 2 ^ 53) (low : 2 ^ 52 ≤ second)
      {scale other : Nat} (before : scale < other) : first * 2 ^ scale < second * 2 ^ other := by
    calc
      first * 2 ^ scale < 2 ^ 53 * 2 ^ scale := Nat.mul_lt_mul_of_pos_right high (Nat.two_pow_pos _)
      _ = 2 ^ 52 * 2 ^ (scale + 1) := by rw [Nat.pow_succ]; omega
      _ ≤ 2 ^ 52 * 2 ^ other := Nat.mul_le_mul_left _ (Nat.pow_le_pow_right (by decide) before)
      _ ≤ second * 2 ^ other := Nat.mul_le_mul_right _ low
  rcases Nat.lt_trichotomy scale other with before | rfl | after
  · have scales : compare (scale - 52 : Int) (other - 52) = .lt :=
      Int.compare_eq_lt.mpr (by omega)
    rw [scales, Nat.compare_eq_lt.mpr (less high lowSecond before)]
    rfl
  · have scales : compare (scale - 52 : Int) (scale - 52) = .eq := Int.compare_eq_eq.mpr rfl
    have positive : 0 < 2 ^ scale := Nat.two_pow_pos scale
    rw [scales, Ordering.then]
    apply compare_congr
    · exact (Nat.mul_lt_mul_right positive).symm
    · exact (Nat.mul_lt_mul_right positive).symm
  · have scales : compare (scale - 52 : Int) (other - 52) = .gt :=
      Int.compare_eq_gt.mpr (by omega)
    rw [scales, Nat.compare_eq_gt.mpr (less highSecond low after)]
    rfl

namespace StandsFor

section

variable {sign : Sign} {mantissa second : Nat} {exponent scale : Int} {positive : 0 < mantissa}
  {otherPositive : 0 < second} {number other : Int}

theorem apply_pos (stands : StandsFor (.finite sign mantissa exponent positive) number) :
    0 < sign.apply number := by
  cases stands with
  | @finite _ _ bits _ _ low high scaled value =>
      have magnitude : 0 < mantissa * 2 ^ bits := Nat.mul_pos positive (Nat.two_pow_pos bits)
      cases sign with
      | negative =>
          rw [Sign.apply] at value ⊢
          omega
      | positive =>
          rw [Sign.apply] at value ⊢
          omega

theorem compare_magnitudes (stands : StandsFor (.finite sign mantissa exponent positive) number)
    (standsOther : StandsFor (.finite sign second scale otherPositive) other) :
    (compare exponent scale).then (compare mantissa second) =
      compare (sign.apply number) (sign.apply other) := by
  cases stands with
  | finite _ low high scaled value =>
      cases standsOther with
      | finite _ lowOther highOther scaledOther valueOther =>
          rw [compare_scaled low high lowOther highOther]
          cases sign with
          | negative =>
              simp only [Sign.apply] at value valueOther ⊢
              apply compare_congr <;> omega
          | positive =>
              simp only [Sign.apply] at value valueOther ⊢
              apply compare_congr <;> omega

end

theorem compare_eq {first second : UnpackedFloat} {number other : Int}
    (stands : StandsFor first number) (standsOther : StandsFor second other) :
    first.compare second = some (compare number other) := by
  cases first with
  | infinity sign => cases stands
  | notANumber => cases stands
  | zero sign =>
      cases stands
      cases second with
      | infinity sign => cases standsOther
      | notANumber => cases standsOther
      | zero sign =>
          cases standsOther
          rfl
      | finite sign second scale otherPositive =>
          have side := standsOther.apply_pos
          cases sign with
          | negative => exact congrArg some (Int.compare_eq_gt.mpr (Int.neg_pos.mp side)).symm
          | positive => exact congrArg some (Int.compare_eq_lt.mpr side).symm
  | finite sign mantissa exponent positive =>
      have side := stands.apply_pos
      cases second with
      | infinity sign => cases standsOther
      | notANumber => cases standsOther
      | zero otherSign =>
          cases standsOther
          cases sign with
          | negative => exact congrArg some (Int.compare_eq_lt.mpr (Int.neg_pos.mp side)).symm
          | positive => exact congrArg some (Int.compare_eq_gt.mpr side).symm
      | finite otherSign second scale otherPositive =>
          have otherSide := standsOther.apply_pos
          cases sign with
          | negative =>
              have isNegative := Int.neg_pos.mp side
              cases otherSign with
              | negative =>
                  have order := stands.compare_magnitudes standsOther
                  change some ((compare _ _).then (compare _ _)).swap = _
                  rw [order, Int.compare_swap]
                  apply congrArg
                  apply compare_congr <;> exact Int.neg_lt_neg_iff
              | positive =>
                  exact congrArg some
                    (Int.compare_eq_lt.mpr (Int.lt_trans isNegative otherSide)).symm
          | positive =>
              cases otherSign with
              | negative =>
                  have isNegative := Int.neg_pos.mp otherSide
                  exact congrArg some (Int.compare_eq_gt.mpr (Int.lt_trans isNegative side)).symm
              | positive => exact congrArg some (stands.compare_magnitudes standsOther)

end StandsFor

theorem compare_swap (first second : UnpackedFloat) :
    second.compare first = (first.compare second).map Ordering.swap := by
  cases first with
  | notANumber => cases second <;> rfl
  | infinity sign =>
      cases second with
      | notANumber => rfl
      | infinity other => cases sign <;> cases other <;> rfl
      | zero other => cases sign <;> rfl
      | finite other mantissa exponent positive => cases sign <;> cases other <;> rfl
  | zero sign =>
      cases second with
      | notANumber => rfl
      | infinity other => cases other <;> rfl
      | zero other => rfl
      | finite other mantissa exponent positive => cases other <;> rfl
  | finite sign mantissa exponent positive =>
      cases second with
      | notANumber => cases sign <;> rfl
      | infinity other => cases sign <;> cases other <;> rfl
      | zero other => cases sign <;> rfl
      | finite other second scale otherPositive =>
          have swapped : (compare scale exponent).then (compare second mantissa) =
              ((compare exponent scale).then (compare mantissa second)).swap := by
            rw [Ordering.swap_then, Int.compare_swap, Nat.compare_swap]
          cases sign <;> cases other
          · exact congrArg (fun ordering => some (Ordering.swap ordering)) swapped
          · rfl
          · rfl
          · exact congrArg some swapped

theorem lt_iff_compare (first second : Float) :
    first < second ↔
      first.toModel.unpack.compare second.toModel.unpack = some .lt := by
  change first.lt second = true ↔ _
  rw [Float.lt]
  change decide (first.toModel.unpack.lt second.toModel.unpack = true) = true ↔ _
  rw [UnpackedFloat.lt]
  simp

theorem beq_eq_compare (first second : Float) :
    (first == second) =
      (first.toModel.unpack.compare second.toModel.unpack == some .eq) := rfl

/-! ## Packing -/

theorem toNat_implicit_append (fraction : BitVec 52) :
    (1#1 ++ fraction).toNat = fraction.toNat + 2 ^ 52 := by
  rw [BitVec.toNat_append, ← Nat.shiftLeft_add_eq_or_of_lt fraction.isLt, Nat.shiftLeft_eq]
  exact Nat.add_comm _ _

theorem toNat_implicit {mantissa : Nat} (low : 2 ^ 52 ≤ mantissa) (high : mantissa < 2 ^ 53) :
    (1#1 ++ BitVec.ofNat 52 mantissa).toNat = mantissa := by
  rw [toNat_implicit_append, BitVec.toNat_ofNat]
  omega

theorem unpack_pack {mantissa scale : Nat} (sign : Sign) (positive : 0 < mantissa)
    (low : 2 ^ 52 ≤ mantissa) (high : mantissa < 2 ^ 53) (scaled : scale < 1024) :
    (pack (.finite sign mantissa (scale - 52) positive)).unpack =
      .finite sign mantissa (scale - 52) positive := by
  have bits : mantissa.log2 + 1 = 53 :=
    congrArg (· + 1) ((Nat.log2_eq_iff (Nat.ne_of_gt positive)).mpr ⟨low, high⟩)
  have biased : ((scale - 52 : Int) + 1023 + 52).toNat = scale + 1023 := by omega
  have packed : UnpackedFloat.pack .binary64 (.finite sign mantissa (scale - 52) positive) =
      packComponents .binary64 sign (BitVec.ofNat 11 (scale + 1023))
        (BitVec.ofNat 52 mantissa) := by
    have room : ¬2 ^ 11 ≤ scale + 1023 + 1 := by omega
    rw [UnpackedFloat.pack]
    change (if 2 ^ 11 ≤ ((scale - 52 : Int) + 1023 + 52).toNat + 1 then _
      else if mantissa.log2 + 1 = 53 then
        packComponents .binary64 sign (BitVec.ofNat 11 ((scale - 52 : Int) + 1023 + 52).toNat)
          (BitVec.ofNat 52 mantissa)
      else _) = _
    rw [biased, if_neg room, if_pos bits]
  have exponent : (BitVec.ofNat 11 (scale + 1023)).toNat = scale + 1023 := by
    rw [BitVec.toNat_ofNat, Nat.mod_eq_of_lt (by omega)]
  have notAll : BitVec.ofNat 11 (scale + 1023) ≠ -1#11 := by
    intro same
    rw [same] at exponent
    change 2047 = scale + 1023 at exponent
    omega
  have notNone : BitVec.ofNat 11 (scale + 1023) ≠ 0#11 := by
    intro same
    rw [same] at exponent
    change 0 = scale + 1023 at exponent
    omega
  change UnpackedFloat.unpack .binary64 (UnpackedFloat.pack .binary64 _) = _
  rw [packed, UnpackedFloat.unpack]
  simp only [unpackMantissa_packComponents, unpackExponent_packComponents,
    unpackSign_packComponents, Sign.ofBitVec_toBitVec]
  rw [if_neg notAll, if_neg notNone]
  simp only [toNat_implicit low high, exponent]
  have bias : Format.binary64.exponentBias = 1023 := rfl
  have unbiased : ((scale + 1023 : Nat) : Int) - ((1023 : Nat) + (52 : Nat)) = scale - 52 := by
    omega
  simp only [bias, unbiased]

/-! ## Rounding -/

/-- A mantissa from which some bits are shifted out: what is left of it, the last of the bits that
are gone, and whether any of the others was set. -/
def shifted (mantissa : Nat) : (bits : Nat) → ExtendedMantissa
  | 0 => ⟨mantissa, false, false⟩
  | bits + 1 =>
      ⟨mantissa / 2 ^ (bits + 1), mantissa / 2 ^ bits % 2 != 0, mantissa % 2 ^ bits != 0⟩

theorem shiftRight_eq_shifted (mantissa bits : Nat) :
    (⟨mantissa, false, false⟩ : ExtendedMantissa) >>> bits = shifted mantissa bits := by
  induction bits with
  | zero => rfl
  | succ bits induction =>
      change ((⟨mantissa, false, false⟩ : ExtendedMantissa) >>> bits).shiftRightOne = _
      rw [induction]
      cases bits with
      | zero => simp [shifted, ExtendedMantissa.shiftRightOne, Nat.mod_one]
      | succ bits =>
          have half : mantissa / 2 ^ (bits + 1) / 2 = mantissa / 2 ^ (bits + 2) := by
            rw [Nat.div_div_eq_div_mul, ← Nat.pow_succ]
          have sticky : (mantissa / 2 ^ bits % 2 != 0 || mantissa % 2 ^ bits != 0) =
              (mantissa % 2 ^ (bits + 1) != 0) := by
            have positive := Nat.two_pow_pos bits
            rw [Nat.mod_pow_succ]
            rcases Nat.mod_two_eq_zero_or_one (mantissa / 2 ^ bits) with even | odd
            · rw [even, Nat.mul_zero, Nat.add_zero]
              rfl
            · have set : mantissa % 2 ^ bits + 2 ^ bits * 1 ≠ 0 := by omega
              rw [odd, bne_iff_ne.mpr set]
              rfl
          rw [shifted, shifted, ExtendedMantissa.shiftRightOne, half, sticky]

theorem roundedMantissa_shifted (mantissa bits : Nat) :
    (shifted mantissa bits).roundedMantissa = roundedQuotient mantissa bits := by
  cases bits with
  | zero => exact (roundedQuotient_zero mantissa).symm
  | succ bits =>
      have rest : mantissa % 2 ^ (bits + 1) =
          mantissa % 2 ^ bits + 2 ^ bits * (mantissa / 2 ^ bits % 2) := Nat.mod_pow_succ
      have small : mantissa % 2 ^ bits < 2 ^ bits := Nat.mod_lt _ (Nat.two_pow_pos bits)
      have double : 2 ^ (bits + 1) = 2 * 2 ^ bits := by rw [Nat.pow_succ, Nat.mul_comm]
      rw [shifted, ExtendedMantissa.roundedMantissa, roundedQuotient, rest]
      rcases Nat.mod_two_eq_zero_or_one (mantissa / 2 ^ bits) with even | odd
      · -- The rest is less than half.
        rw [even, if_pos (by omega)]
        cases mantissa % 2 ^ bits != 0 <;> rfl
      · rw [odd]
        by_cases middle : mantissa % 2 ^ bits = 0
        · rw [middle, if_neg (by omega), if_pos (by omega)]
          rfl
        · have notMiddle : (mantissa % 2 ^ bits != 0) = true := bne_iff_ne.mpr middle
          rw [notMiddle, if_neg (by omega), if_neg (by omega)]
          rfl

theorem mantissa_shifted (mantissa bits : Nat) :
    (shifted mantissa bits).mantissa = mantissa / 2 ^ bits := by
  cases bits with
  | zero => exact (Nat.div_one mantissa).symm
  | succ bits => rfl

theorem shiftToTargetExponent_eq (mantissa : Nat) {exponent : Int} (least : -1074 ≤ exponent) :
    shiftToTargetExponent .binary64 mantissa exponent .exact =
      (shifted mantissa (extraBits mantissa), exponent + extraBits mantissa) := by
  have amount : (Format.binary64.targetExponent (totalExponent mantissa exponent)
      - exponent).toNat = extraBits mantissa := by
    change (max (mantissa.log2 + 1 + exponent - (53 : Nat)) (-1074) - exponent).toNat = _
    rw [extraBits]
    omega
  rw [shiftToTargetExponent, shiftToExponent, amount, ← shiftRight_eq_shifted]
  rfl

theorem carry {rounded : Nat} (low : 2 ^ 52 ≤ rounded) (high : rounded ≤ 2 ^ 53) :
    2 ^ 52 ≤ rounded / 2 ^ extraBits rounded ∧ rounded / 2 ^ extraBits rounded < 2 ^ 53 ∧
      rounded / 2 ^ extraBits rounded * 2 ^ extraBits rounded = rounded ∧
      extraBits rounded ≤ 1 := by
  rcases Nat.lt_or_eq_of_le high with short | rfl
  · have none : extraBits rounded = 0 := by
      rw [extraBits, (Nat.log2_eq_iff (by omega)).mpr ⟨low, short⟩]
    rw [none]
    omega
  · decide

theorem exists_roundWithAccuracy (sign : Sign) {mantissa : Nat} (long : 52 ≤ mantissa.log2)
    {exponent : Int} (least : -1074 ≤ exponent) :
    ∃ (final bits : Nat) (positive : 0 < final),
      roundWithAccuracy .binary64 sign mantissa exponent .exact =
        .finite sign final (exponent + extraBits mantissa + bits) positive ∧
      2 ^ 52 ≤ final ∧ final < 2 ^ 53 ∧ bits ≤ 1 ∧
      final * 2 ^ bits = roundedQuotient mantissa (extraBits mantissa) := by
  have bounds := roundedQuotient_extraBits long
  rcases carry bounds.1 bounds.2 with ⟨low, high, whole, few⟩
  refine ⟨_, extraBits (roundedQuotient mantissa (extraBits mantissa)), by omega, ?_, low, high,
    few, whole⟩
  rw [roundWithAccuracy, shiftToTargetExponent_eq mantissa least]
  dsimp only
  rw [roundedMantissa_shifted, shiftToTargetExponent_eq _ (by omega)]
  dsimp only
  rw [dif_neg (by rw [mantissa_shifted]; omega)]
  simp only [mantissa_shifted]

theorem log2_mul_two_pow {value : Nat} (positive : value ≠ 0) (bits : Nat) :
    (value * 2 ^ bits).log2 = value.log2 + bits := by
  have power := Nat.two_pow_pos bits
  apply (Nat.log2_eq_iff (Nat.mul_ne_zero positive (Nat.ne_of_gt power))).mpr
  constructor
  · rw [Nat.pow_add]
    exact Nat.mul_le_mul_right _ (Nat.log2_self_le positive)
  · rw [Nat.add_right_comm, Nat.pow_add]
    exact Nat.mul_lt_mul_of_pos_right Nat.lt_log2_self power

theorem standsFor_round (sign : Sign) {value : Nat} (positive : value ≠ 0)
    (bounded : value.log2 < 1023) :
    StandsFor (round .binary64 sign value 0) (sign.apply (nearest value)) := by
  -- A short number is filled up with zeros.
  let padding := 52 - value.log2
  have start : round .binary64 sign value 0 =
      roundWithAccuracy .binary64 sign (value * 2 ^ padding) (-padding) .exact := by
    have amount : (0 - Format.binary64.targetExponent (totalExponent value 0)).toNat = padding := by
      change (0 - max (value.log2 + 1 + 0 - (53 : Nat) : Int) (-1074)).toNat = 52 - value.log2
      omega
    rw [UnpackedFloat.round, decreaseExponent]
    dsimp only
    rw [amount, Nat.shiftLeft_eq, Int.zero_sub]
  have log := log2_mul_two_pow positive padding
  have long : 52 ≤ (value * 2 ^ padding).log2 := by omega
  have least : -1074 ≤ (-padding : Int) := by omega
  have extra : extraBits (value * 2 ^ padding) = extraBits value := by
    rw [extraBits, extraBits, log]
    omega
  rcases exists_roundWithAccuracy sign long least with
    ⟨final, bits, finalPositive, rounded, low, high, few, whole⟩
  have product : final * 2 ^ (52 - padding + extraBits value + bits) = nearest value * 2 ^ 52 := by
    rw [extra] at whole
    rcases Nat.le_total 52 value.log2 with isLong | short
    · have none : padding = 0 := Nat.sub_eq_zero_of_le isLong
      rw [none, Nat.pow_zero, Nat.mul_one] at whole
      rw [none, Nat.add_comm, Nat.pow_add, ← Nat.mul_assoc, whole, nearest, Nat.sub_zero,
        Nat.pow_add, Nat.mul_assoc, Nat.mul_comm (2 ^ 52)]
    · have none : extraBits value = 0 := Nat.sub_eq_zero_of_le short
      have filled : padding + (52 - padding) = 52 := by omega
      rw [none, roundedQuotient_zero] at whole
      rw [none, Nat.add_zero, Nat.add_comm, Nat.pow_add, ← Nat.mul_assoc, whole,
        nearest_of_short short, Nat.mul_assoc, ← Nat.pow_add, filled]
  have scale : (-padding + extraBits value + bits : Int) =
      ((52 - padding + extraBits value + bits : Nat) : Int) - 52 := by omega
  rw [start, rounded]
  simp only [extra, scale]
  apply StandsFor.finite finalPositive low high
  · rw [extraBits]
    omega
  · rw [product]
    cases sign with
    | negative =>
        change _ = -(nearest value : Int) * 2 ^ 52
        rw [Int.neg_mul]
        rfl
    | positive => rfl

/-! ## Integers -/

def Means (value : Float) (number : Int) : Prop := StandsFor value.toModel.unpack number

theorem Means.isFinite {value : Float} {number : Int} (means : Means value number) :
    value.isFinite = true := by
  have finite {unpacked : UnpackedFloat} (stands : StandsFor unpacked number) :
      unpacked.isFinite = true := by
    cases stands <;> rfl
  exact finite means

theorem unpack_pack_of_standsFor {unpacked : UnpackedFloat} {number : Int}
    (stands : StandsFor unpacked number) : (pack unpacked).unpack = unpacked := by
  cases stands with
  | zero sign => cases sign <;> rfl
  | finite positive low high scaled value => exact unpack_pack _ positive low high scaled

theorem means_ofNat {value : Nat} (fits : value < 2 ^ 64) :
    Means (ofNat value) (nearest value) := by
  have same : value.toUInt64.toNat = value := Nat.mod_eq_of_lt fits
  have stands : StandsFor (UnpackedFloat.ofInt .binary64 value) (nearest value) := by
    rw [UnpackedFloat.ofInt, UnpackedFloat.normalize]
    rcases Nat.eq_zero_or_pos value with rfl | positive
    · exact .zero .positive
    · have bounded : value.log2 < 1023 := by
        have short : value.log2 < 64 := (Nat.log2_lt (Nat.ne_of_gt positive)).mpr fits
        omega
      have greater : compare (value : Int) 0 = .gt := Int.compare_eq_gt.mpr (by omega)
      rw [greater]
      exact standsFor_round .positive (Nat.ne_of_gt positive) bounded
  change StandsFor (pack (UnpackedFloat.ofInt .binary64 value.toUInt64.toNat)).unpack _
  rw [same, unpack_pack_of_standsFor stands]
  exact stands

theorem StandsFor.neg {unpacked : UnpackedFloat} {number : Int}
    (stands : StandsFor unpacked number) : StandsFor unpacked.neg (-number) := by
  cases stands with
  | zero sign => exact .zero (-sign)
  | @finite sign mantissa scale _ positive low high scaled value =>
      apply StandsFor.finite positive low high scaled
      cases sign with
      | negative =>
          change ((mantissa * 2 ^ scale : Nat) : Int) = -number * 2 ^ 52
          rw [Sign.apply] at value
          omega
      | positive =>
          change -((mantissa * 2 ^ scale : Nat) : Int) = -number * 2 ^ 52
          rw [Sign.apply] at value
          omega

theorem means_ofInt {value : Int} (fits : -(2 ^ 63) ≤ value ∧ value < 2 ^ 64) :
    Means (ofInt value) (nearestInt value) := by
  have means : Means (ofNat value.natAbs) (nearest value.natAbs) := means_ofNat (by omega)
  rw [ofInt, nearestInt]
  split
  · change StandsFor (pack (ofNat value.natAbs).toModel.unpack.neg).unpack _
    rw [unpack_pack_of_standsFor means.neg]
    exact means.neg
  · exact means

end LiterateTest.Double
