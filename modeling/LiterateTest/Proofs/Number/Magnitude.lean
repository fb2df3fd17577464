import Mathlib
import LiterateTest.Proofs.Number.Truncation

/-! Doubles that are not negative: how large they are, and how large a product of two is. -/

namespace LiterateTest.Double

open Float.Model UnpackedFloat

/-! ## Unpacked doubles -/

/-- What a finite double is unpacked to has all 53 bits of its mantissa in use, save with the least
exponent. -/
inductive Canonical : UnpackedFloat → Prop
  | notANumber : Canonical .notANumber
  | infinity (sign : Sign) : Canonical (.infinity sign)
  | zero (sign : Sign) : Canonical (.zero sign)
  | finite {sign : Sign} {mantissa : Nat} {exponent : Int} (positive : 0 < mantissa)
      (high : mantissa < 2 ^ 53) (least : -1074 ≤ exponent)
      (low : 2 ^ 52 ≤ mantissa ∨ exponent = -1074) :
      Canonical (.finite sign mantissa exponent positive)

theorem canonical_unpack (model : Float.Model) : Canonical model.unpack := by
  change Canonical (UnpackedFloat.unpack .binary64 model.toBits.toBitVec)
  let fraction : BitVec 52 := @unpackMantissa .binary64 model.toBits.toBitVec
  let biased : BitVec 11 := @unpackExponent .binary64 model.toBits.toBitVec
  have bias : (Format.binary64.exponentBias : Int) + (52 : Nat) = 1075 := rfl
  have short : fraction.toNat < 2 ^ 52 := fraction.isLt
  rw [UnpackedFloat.unpack]
  dsimp only
  split
  · split
    · exact .infinity _
    · exact .notANumber
  · split
    · next none =>
        have isSmall : biased.toNat = 0 := congrArg BitVec.toNat none
        split
        · exact .zero _
        · have exponent : (biased.toNat : Int) - 1075 + 1 = -1074 := by omega
          rw [bias]
          exact .finite _ (show fraction.toNat < 2 ^ 53 by omega) (Int.le_of_eq exponent.symm)
            (.inr exponent)
    · next some =>
        have large : biased.toNat ≠ 0 := fun none => some (BitVec.eq_of_toNat_eq none)
        have implicit := toNat_implicit_append fraction
        rw [bias]
        refine .finite _ ?_ ?_ (.inl ?_)
        · exact implicit ▸ show fraction.toNat + 2 ^ 52 < 2 ^ 53 by omega
        · exact show (-1074 : Int) ≤ biased.toNat - 1075 by omega
        · exact implicit ▸ Nat.le_add_left _ _

inductive Unsigned : UnpackedFloat → Prop
  | infinity : Unsigned (.infinity .positive)
  | zero (sign : Sign) : Unsigned (.zero sign)
  | finite {mantissa : Nat} {exponent : Int} (positive : 0 < mantissa) :
      Unsigned (.finite .positive mantissa exponent positive)

theorem unsigned_iff (value : Float) :
    Unsigned value.toModel.unpack ↔ value.isNaN = false ∧ ¬value < 0 := by
  rw [lt_iff_compare]
  change _ ↔ value.toModel.unpack.isNaN = false ∧
    ¬value.toModel.unpack.compare (.zero .positive) = some .lt
  constructor
  · intro unsigned
    generalize value.toModel.unpack = unpacked at unsigned
    cases unsigned <;> exact ⟨rfl, nofun⟩
  · rintro ⟨number, notLess⟩
    generalize value.toModel.unpack = unpacked at number notLess
    cases unpacked with
    | notANumber => cases number
    | infinity sign =>
        cases sign with
        | positive => exact .infinity
        | negative => exact absurd rfl notLess
    | zero sign => exact .zero sign
    | finite sign mantissa exponent positive =>
        cases sign with
        | positive => exact .finite positive
        | negative => exact absurd rfl notLess

theorem Unsigned.exactValue_nonneg {unpacked : UnpackedFloat} (unsigned : Unsigned unpacked) :
    0 ≤ exactValue unpacked := by
  cases unsigned with
  | infinity | zero => exact le_rfl
  | @finite mantissa exponent positive =>
      change 0 ≤ (mantissa * 2 ^ exponent : ℚ)
      positivity

/-! ## Size -/

inductive Within (bound : Int) : UnpackedFloat → Prop
  | zero (sign : Sign) : Within bound (.zero sign)
  | finite {sign : Sign} {mantissa : Nat} {exponent : Int} (positive : 0 < mantissa)
      (low : exponent ≤ bound) : Within bound (.finite sign mantissa exponent positive)

theorem within_iff {unpacked : UnpackedFloat} (canonical : Canonical unpacked)
    (unsigned : Unsigned unpacked) {bound : ℚ} (low : 2 ^ 64 - 2 ^ 11 < bound)
    (high : bound ≤ 2 ^ 64) :
    Within 11 unpacked ↔ unpacked.isFinite = true ∧ exactValue unpacked < bound := by
  cases unsigned with
  | infinity => exact ⟨nofun, nofun⟩
  | zero sign =>
      have positive : exactValue (.zero sign) < bound := by
        change 0 < bound
        linarith
      exact ⟨fun _ => ⟨rfl, positive⟩, fun _ => .zero sign⟩
  | @finite mantissa exponent positive =>
      have value : exactValue (.finite .positive mantissa exponent positive) =
          mantissa * 2 ^ exponent := rfl
      rw [value]
      cases canonical with
      | finite _ short least long =>
          constructor
          · intro within
            cases within with
            | finite _ small =>
                have mantissas : (mantissa : ℚ) ≤ 2 ^ 53 - 1 := by
                  exact_mod_cast Int.le_sub_one_of_lt (Int.ofNat_lt.mpr short)
                have powers : (2 : ℚ) ^ exponent ≤ 2 ^ (11 : Int) :=
                  zpow_le_zpow_right₀ one_le_two small
                refine ⟨rfl, lt_of_le_of_lt ?_ low⟩
                calc
                  (mantissa : ℚ) * 2 ^ exponent ≤ (2 ^ 53 - 1) * 2 ^ (11 : Int) := by gcongr
                  _ = 2 ^ 64 - 2 ^ 11 := by norm_num
          · rintro ⟨_, below⟩
            refine .finite positive (not_lt.mp fun large => ?_)
            have mantissas : (2 ^ 52 : ℚ) ≤ mantissa := by
              exact_mod_cast long.resolve_right (by omega)
            have powers : (2 : ℚ) ^ (12 : Int) ≤ 2 ^ exponent :=
              zpow_le_zpow_right₀ one_le_two large
            have contrary : (2 ^ 64 : ℚ) ≤ mantissa * 2 ^ exponent := by
              calc
                (2 ^ 64 : ℚ) = 2 ^ 52 * 2 ^ (12 : Int) := by norm_num
                _ ≤ mantissa * 2 ^ exponent := by gcongr
            linarith

/-! ## Packing -/

theorem unpack_packComponents {biased : Nat} (room : biased < 2047) (fraction : BitVec 52)
    {bound : Int} (least : -1074 ≤ bound) (low : biased - 1075 ≤ bound)
    {unpacked : UnpackedFloat} (same : UnpackedFloat.unpack .binary64
      (packComponents .binary64 .positive (BitVec.ofNat 11 biased) fraction) = unpacked) :
    Unsigned unpacked ∧ Within bound unpacked := by
  have stored : (BitVec.ofNat 11 biased).toNat = biased := by
    rw [BitVec.toNat_ofNat, Nat.mod_eq_of_lt (by omega)]
  have notAll : BitVec.ofNat 11 biased ≠ -1#11 := by
    intro same
    rw [same] at stored
    change 2047 = biased at stored
    omega
  have bias : (Format.binary64.exponentBias : Int) + (52 : Nat) = 1075 := rfl
  rw [UnpackedFloat.unpack] at same
  simp only [unpackMantissa_packComponents, unpackExponent_packComponents,
    unpackSign_packComponents, Sign.ofBitVec_toBitVec, stored, bias] at same
  rw [if_neg notAll] at same
  split at same
  · next none =>
      have isZero : biased = 0 := stored ▸ congrArg BitVec.toNat none
      split at same
      · exact same ▸ ⟨.zero _, .zero _⟩
      · exact same ▸ ⟨.finite _, .finite _ (by omega)⟩
  · exact same ▸ ⟨.finite _, .finite _ low⟩

theorem pack_finite {mantissa : Nat} {exponent : Int} (positive : 0 < mantissa) :
    UnpackedFloat.pack .binary64 (.finite .positive mantissa exponent positive) =
      if 2 ^ 11 ≤ (exponent + 1023 + 52).toNat + 1 then packedInfinity .binary64 .positive
      else if mantissa.log2 + 1 = 53 then
        packComponents .binary64 .positive (BitVec.ofNat 11 (exponent + 1023 + 52).toNat)
          (BitVec.ofNat 52 mantissa)
      else packComponents .binary64 .positive (BitVec.ofNat 11 0) (BitVec.ofNat 52 mantissa) := rfl

theorem unsigned_pack {unpacked : UnpackedFloat} (unsigned : Unsigned unpacked) :
    Unsigned (pack unpacked).unpack := by
  cases unsigned with
  | infinity => exact .infinity
  | zero sign => cases sign <;> exact .zero _
  | @finite mantissa exponent positive =>
      change Unsigned (UnpackedFloat.unpack .binary64 (UnpackedFloat.pack .binary64 _))
      rw [pack_finite]
      split
      · exact .infinity
      · split
        · exact (unpack_packComponents (by omega) _ (le_max_left _ _) (le_max_right _ _) rfl).1
        · exact (unpack_packComponents (by decide) _ le_rfl (by decide) rfl).1

theorem within_pack {unpacked : UnpackedFloat} (unsigned : Unsigned unpacked) {bound : Int}
    (least : -1074 ≤ bound) (room : bound < 972) (within : Within bound unpacked) :
    Within bound (pack unpacked).unpack := by
  cases unsigned with
  | infinity => cases within
  | zero sign => cases sign <;> exact .zero _
  | @finite mantissa exponent positive =>
      cases within with
      | finite _ low =>
          change Within bound (UnpackedFloat.unpack .binary64 (UnpackedFloat.pack .binary64 _))
          rw [pack_finite, if_neg (by omega)]
          split
          · exact (unpack_packComponents (by omega) _ least (by omega) rfl).2
          · exact (unpack_packComponents (by decide) _ least (by omega) rfl).2

theorem not_within_pack {mantissa : Nat} {exponent : Int} (positive : 0 < mantissa)
    (low : 2 ^ 52 ≤ mantissa) (high : mantissa < 2 ^ 53) (large : 11 < exponent) :
    ¬Within 11 (pack (.finite .positive mantissa exponent positive)).unpack := by
  rcases lt_or_ge exponent 972 with room | none
  · obtain ⟨scale, rfl⟩ : ∃ scale : Nat, exponent = scale - 52 :=
      ⟨(exponent + 52).toNat, by omega⟩
    rw [unpack_pack _ positive low high (by omega)]
    intro within
    cases within with
    | finite _ small => omega
  · change ¬Within 11 (UnpackedFloat.unpack .binary64 (UnpackedFloat.pack .binary64 _))
    rw [pack_finite, if_pos (by omega)]
    exact nofun

/-! ## Rounding -/

theorem roundedQuotient_lt_iff {mantissa bits : Nat} (short : mantissa < 2 ^ (bits + 53)) :
    roundedQuotient mantissa bits < 2 ^ 53 ↔ 2 * mantissa < (2 ^ 54 - 1) * 2 ^ bits := by
  have parts := Nat.div_add_mod mantissa (2 ^ bits)
  have rest := Nat.mod_lt mantissa (Nat.two_pow_pos bits)
  have quotient : mantissa / 2 ^ bits < 2 ^ 53 := by
    apply (Nat.div_lt_iff_lt_mul (Nat.two_pow_pos bits)).mpr
    rwa [← Nat.pow_add, Nat.add_comm]
  have bounds := roundedQuotient_bounds mantissa bits
  rcases Nat.lt_or_ge (mantissa / 2 ^ bits) (2 ^ 53 - 1) with small | large
  · have next : 2 ^ bits * (mantissa / 2 ^ bits + 1) ≤ 2 ^ bits * (2 ^ 53 - 1) :=
      Nat.mul_le_mul_left _ small
    rw [Nat.mul_add, Nat.mul_one] at next
    omega
  · have last : mantissa / 2 ^ bits = 2 ^ 53 - 1 := by omega
    rw [last] at parts
    rw [roundedQuotient]
    simp only [last]
    split
    · omega
    · split <;> omega

theorem unsigned_round (mantissa : Nat) (exponent : Int) :
    Unsigned (roundWithAccuracy .binary64 .positive mantissa exponent .exact) := by
  rw [roundWithAccuracy]
  dsimp only
  split
  · exact .zero _
  · exact .finite _

theorem log2_lt_of_lt {value bits : Nat} (positive : 0 < bits) (small : value < 2 ^ bits) :
    value.log2 < bits := by
  rcases Nat.eq_zero_or_pos value with rfl | some
  · exact positive
  · exact (Nat.log2_lt (Nat.ne_of_gt some)).mpr small

theorem exists_shiftToTargetExponent (mantissa : Nat) (exponent : Int) :
    ∃ bits : Nat,
      shiftToTargetExponent .binary64 mantissa exponent .exact =
        (shifted mantissa bits, exponent + bits) ∧
      exponent + bits ≤ max exponent (max (mantissa.log2 - 52 + exponent) (-1074)) := by
  refine ⟨(max (mantissa.log2 + 1 + exponent - (53 : Nat)) (-1074) - exponent).toNat, ?_, ?_⟩
  · rw [← shiftRight_eq_shifted]
    rfl
  · omega

theorem within_round_of_tiny {mantissa : Nat} (short : mantissa < 2 ^ 106) {exponent : Int}
    (tiny : exponent < -1074) :
    Within 11 (roundWithAccuracy .binary64 .positive mantissa exponent .exact) := by
  obtain ⟨bits, first, bound⟩ := exists_shiftToTargetExponent mantissa exponent
  obtain ⟨more, second, last⟩ :=
    exists_shiftToTargetExponent (roundedQuotient mantissa bits) (exponent + bits)
  have rounded : roundedQuotient mantissa bits < 2 ^ 107 := by
    have above := (roundedQuotient_bounds mantissa bits).2
    have quotient := Nat.div_le_self mantissa (2 ^ bits)
    omega
  have log := log2_lt_of_lt (by decide) short
  have logRounded := log2_lt_of_lt (by decide) rounded
  rw [roundWithAccuracy, first]
  dsimp only
  rw [roundedMantissa_shifted, second]
  dsimp only
  split
  · exact .zero _
  · exact .finite _ (by omega)

/-- A number that is rounded stays below `2 ^ 64` if it is closer to the largest double below
`2 ^ 64` than to `2 ^ 64`. -/
theorem within_round_iff {mantissa : Nat} (long : 52 ≤ mantissa.log2) (short : mantissa < 2 ^ 106)
    (exponent : Int) :
    Within 11 (pack (roundWithAccuracy .binary64 .positive mantissa exponent .exact)).unpack ↔
      (mantissa * 2 ^ exponent : ℚ) < 2 ^ 64 - 2 ^ 10 := by
  rcases lt_or_ge exponent (-1074) with tiny | least
  · have within := within_pack (unsigned_round mantissa exponent) (by decide) (by decide)
      (within_round_of_tiny short tiny)
    have below : (mantissa * 2 ^ exponent : ℚ) < 2 ^ 64 - 2 ^ 10 := by
      calc
        (mantissa * 2 ^ exponent : ℚ) ≤ 2 ^ 106 * 2 ^ (-106 : Int) := by
          gcongr
          · exact_mod_cast short.le
          · exact one_le_two
          · omega
        _ < 2 ^ 64 - 2 ^ 10 := by norm_num
    exact iff_of_true within below
  · obtain ⟨final, bits, positive, rounded, low, high, few, whole⟩ :=
      exists_roundWithAccuracy .positive long least
    let extra := extraBits mantissa
    have log : mantissa.log2 = extra + 52 := by
      change _ = mantissa.log2 - 52 + 52
      omega
    have above : 2 ^ (extra + 52) ≤ mantissa :=
      log ▸ Nat.log2_self_le (by rintro rfl; exact absurd long (by decide))
    have below : mantissa < 2 ^ (extra + 53) := by
      have := @Nat.lt_log2_self mantissa
      rwa [log] at this
    have packed :
        Within 11 (pack (.finite .positive final (exponent + extra + bits) positive)).unpack ↔
          exponent + extra + bits ≤ 11 := by
      constructor
      · exact fun within => not_lt.mp fun large => not_within_pack positive low high large within
      · exact fun small => within_pack (.finite _) (by decide) (by decide) (.finite _ small)
    rw [rounded, packed]
    rcases lt_trichotomy (exponent + extra) 11 with small | middle | large
    · have value : (mantissa * 2 ^ exponent : ℚ) < 2 ^ 64 - 2 ^ 10 := by
        calc
          (mantissa * 2 ^ exponent : ℚ) ≤ 2 ^ (extra + 53) * 2 ^ exponent := by
            gcongr
            exact_mod_cast below.le
          _ = 2 ^ (exponent + extra + 53) := by
            rw [← zpow_natCast, ← zpow_add₀ two_ne_zero]
            congr 1
            omega
          _ ≤ 2 ^ (63 : Int) := zpow_le_zpow_right₀ one_le_two (by omega)
          _ < 2 ^ 64 - 2 ^ 10 := by norm_num
      exact iff_of_true (by omega) value
    · -- Only here does it depend on the rounding whether the bound is reached.
      have carried :
          exponent + extra + bits ≤ 11 ↔ roundedQuotient mantissa extra < 2 ^ 53 := by
        rw [← whole]
        obtain rfl | rfl : bits = 0 ∨ bits = 1 := by omega
        · omega
        · omega
      have power : (2 : ℚ) ^ exponent = 2 ^ 11 / 2 ^ extra := by
        rw [eq_sub_of_add_eq middle, zpow_sub₀ two_ne_zero, zpow_natCast]
        rfl
      rw [carried, roundedQuotient_lt_iff below, power, ← mul_div_assoc,
        div_lt_iff₀ (by positivity), ← @Nat.cast_lt ℚ]
      push_cast
      constructor <;> intro <;> linarith
    · have value : (2 ^ 64 : ℚ) ≤ mantissa * 2 ^ exponent := by
        calc
          (2 ^ 64 : ℚ) = 2 ^ (64 : Int) := rfl
          _ ≤ 2 ^ (exponent + extra + 52) := zpow_le_zpow_right₀ one_le_two (by omega)
          _ = 2 ^ (extra + 52) * 2 ^ exponent := by
            rw [← zpow_natCast, ← zpow_add₀ two_ne_zero]
            congr 1
            omega
          _ ≤ mantissa * 2 ^ exponent := by
            gcongr
            exact_mod_cast above
      exact iff_of_false (by omega) (by linarith)

/-! ## Products -/

def toRational (value : Float) : ℚ := exactValue value.toModel.unpack

def IsNormal (unpacked : UnpackedFloat) : Prop :=
  ∃ (mantissa : Nat) (exponent : Int) (positive : 0 < mantissa),
    unpacked = .finite .positive mantissa exponent positive ∧ 2 ^ 52 ≤ mantissa ∧ mantissa < 2 ^ 53

section

variable {value factor : Float} (finite : value.isFinite = true) (notNegative : ¬value < 0)
  (normal : IsNormal factor.toModel.unpack)

include finite notNegative normal

theorem unpack_mul :
    (∃ sign, (value * factor).toModel.unpack = .zero sign ∧ toRational value = 0) ∨
      ∃ (mantissa : Nat) (exponent : Int),
        52 ≤ mantissa.log2 ∧ mantissa < 2 ^ 106 ∧
        toRational value * toRational factor = mantissa * 2 ^ exponent ∧
        (value * factor).toModel.unpack =
          (pack (roundWithAccuracy .binary64 .positive mantissa exponent .exact)).unpack := by
  have unsigned := (unsigned_iff value).mpr ⟨(isNumber_of_isFinite finite).1, notNegative⟩
  have canonical := canonical_unpack value.toModel
  have product : (value * factor).toModel.unpack =
      (pack (UnpackedFloat.mul .binary64 value.toModel.unpack factor.toModel.unpack)).unpack := rfl
  change value.toModel.unpack.isFinite = true at finite
  rw [product, toRational, toRational]
  generalize value.toModel.unpack = first at finite unsigned canonical
  generalize factor.toModel.unpack = second at normal
  obtain ⟨mantissa, exponent, positive, rfl, low, high⟩ := normal
  cases unsigned with
  | infinity => cases finite
  | zero sign =>
      refine .inl ⟨sign, ?_, rfl⟩
      rw [UnpackedFloat.mul]
      cases sign <;> rfl
  | @finite own scale ownPositive =>
      cases canonical with
      | finite _ short _ _ =>
          refine .inr ⟨own * mantissa, scale + exponent, ?_, ?_, ?_, rfl⟩
          · apply (Nat.le_log2 (Nat.ne_of_gt (Nat.mul_pos ownPositive positive))).mpr
            exact Nat.le_trans low (Nat.le_mul_of_pos_left mantissa ownPositive)
          · exact Nat.lt_of_lt_of_eq (Nat.mul_lt_mul'' short high) (by decide)
          · rw [exactValue, exactValue, zpow_add₀ two_ne_zero, Nat.cast_mul]
            change (own : ℚ) * _ * (mantissa * _) = _
            ring

theorem unsigned_mul : Unsigned (value * factor).toModel.unpack := by
  rcases unpack_mul finite notNegative normal with
    ⟨sign, zero, -⟩ | ⟨mantissa, exponent, -, -, -, product⟩
  · exact zero ▸ .zero sign
  · exact product ▸ unsigned_pack (unsigned_round mantissa exponent)

theorem within_mul_iff :
    Within 11 (value * factor).toModel.unpack ↔
      toRational value * toRational factor < 2 ^ 64 - 2 ^ 10 := by
  rcases unpack_mul finite notNegative normal with
    ⟨sign, zero, nothing⟩ | ⟨mantissa, exponent, long, short, exact, product⟩
  · rw [zero, nothing, zero_mul]
    exact iff_of_true (.zero sign) (by norm_num)
  · rw [product, exact]
    exact within_round_iff long short exponent

end

/-! ## Integers -/

section

variable {count : Int} (fits : -(2 ^ 63) ≤ count ∧ count < 2 ^ 64)

include fits

theorem unsigned_ofInt_iff : Unsigned (ofInt count).toModel.unpack ↔ 0 ≤ count := by
  have means := means_ofInt fits
  have less : ofInt count < 0 ↔ nearestInt count < 0 := by
    rw [lt_iff_compare]
    change (ofInt count).toModel.unpack.compare (.zero .positive) = _ ↔ _
    rw [StandsFor.compare_eq means (.zero .positive), Option.some_inj, Int.compare_eq_lt]
  have negative := @nearestInt_lt_iff 0 0 (by decide) (by decide) count
  rw [unsigned_iff, (isNumber_of_isFinite means.isFinite).1, less, negative, not_lt]
  exact and_iff_right rfl

theorem within_ofInt_iff (nonneg : 0 ≤ count) :
    Within 11 (ofInt count).toModel.unpack ↔ (count : ℚ) < 2 ^ 64 - 2 ^ 10 := by
  have means := means_ofInt fits
  have finite : (ofInt count).toModel.unpack.isFinite = true := means.isFinite
  rw [within_iff (canonical_unpack _) ((unsigned_ofInt_iff fits).mpr nonneg) (by norm_num) le_rfl,
    and_iff_right finite, StandsFor.exactValue means]
  have integers :=
    @nearestInt_lt_iff (2 ^ 64 - 2 ^ 10) (2 ^ 64) (by decide) (by decide) count
  exact_mod_cast integers

end

end LiterateTest.Double
