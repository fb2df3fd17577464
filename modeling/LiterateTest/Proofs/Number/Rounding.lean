import LiterateTest.Number.Double

/-! The numbers closest to others among those that have 53 significant bits, as doubles do. Between
two that are equally close, the one whose last bit is zero is taken. -/

namespace LiterateTest.Double

/-- The quotient by a power of two, rounded to the nearest number, and between two of them to the
even one. -/
def roundedQuotient (value bits : Nat) : Nat :=
  let quotient := value / 2 ^ bits
  let rest := value % 2 ^ bits
  if 2 * rest < 2 ^ bits then quotient
  else if 2 * rest = 2 ^ bits then quotient + quotient % 2
  else quotient + 1

def extraBits (value : Nat) : Nat := value.log2 - 52

def nearest (value : Nat) : Nat := roundedQuotient value (extraBits value) * 2 ^ extraBits value

def nearestInt (value : Int) : Int :=
  if value < 0 then -(nearest value.natAbs : Int) else nearest value.natAbs

example : nearest (2 ^ 53 + 1) = 2 ^ 53 ∧ nearest (2 ^ 53 + 3) = 2 ^ 53 + 4 := by decide

/-! ## Quotients -/

theorem roundedQuotient_bounds (value bits : Nat) :
    value / 2 ^ bits ≤ roundedQuotient value bits ∧
      roundedQuotient value bits ≤ value / 2 ^ bits + 1 := by
  simp only [roundedQuotient]
  split
  · omega
  · split <;> omega

theorem roundedQuotient_zero (value : Nat) : roundedQuotient value 0 = value := by
  simp [roundedQuotient, Nat.mod_one]

theorem roundedQuotient_mono {value other : Nat} (le : value ≤ other) (bits : Nat) :
    roundedQuotient value bits ≤ roundedQuotient other bits := by
  have quotients : value / 2 ^ bits ≤ other / 2 ^ bits := Nat.div_le_div_right le
  rcases Nat.lt_or_eq_of_le quotients with less | same
  · have below := (roundedQuotient_bounds value bits).2
    have above := (roundedQuotient_bounds other bits).1
    omega
  · have rests : value % 2 ^ bits ≤ other % 2 ^ bits := by
      have first := Nat.div_add_mod value (2 ^ bits)
      have second := Nat.div_add_mod other (2 ^ bits)
      rw [same] at first
      omega
    have bound := (roundedQuotient_bounds value bits).2
    simp only [roundedQuotient, same] at bound ⊢
    rcases Nat.lt_trichotomy (2 * (other % 2 ^ bits)) (2 ^ bits) with low | middle | high
    · apply Nat.le_of_eq
      rw [if_pos low, if_pos (by omega)]
    · rw [if_neg (Nat.not_lt_of_ge (Nat.le_of_eq middle.symm)), if_pos middle]
      split
      · omega
      · exact Nat.le_of_eq (if_pos (by omega))
    · rw [if_neg (Nat.lt_asymm high), if_neg (Nat.ne_of_gt high)]
      exact bound

/-! ## Nearest numbers -/

theorem roundedQuotient_extraBits {value : Nat} (long : 52 ≤ value.log2) :
    2 ^ 52 ≤ roundedQuotient value (extraBits value) ∧
      roundedQuotient value (extraBits value) ≤ 2 ^ 53 := by
  have bounds := roundedQuotient_bounds value (extraBits value)
  have total : 52 + extraBits value = value.log2 := by rw [extraBits]; omega
  have low : 2 ^ 52 ≤ value / 2 ^ extraBits value := by
    apply (Nat.le_div_iff_mul_le (Nat.two_pow_pos _)).mpr
    rw [← Nat.pow_add, total]
    apply Nat.log2_self_le
    rintro rfl
    exact absurd long (by decide)
  have high : value / 2 ^ extraBits value < 2 ^ 53 := by
    apply (Nat.div_lt_iff_lt_mul (Nat.two_pow_pos _)).mpr
    rw [← Nat.pow_add, show 53 + extraBits value = value.log2 + 1 by omega]
    exact Nat.lt_log2_self
  omega

theorem nearest_of_short {value : Nat} (short : value.log2 ≤ 52) : nearest value = value := by
  have none : extraBits value = 0 := Nat.sub_eq_zero_of_le short
  rw [nearest, none, roundedQuotient_zero, Nat.pow_zero, Nat.mul_one]

theorem two_pow_log2_le_nearest {value : Nat} (positive : value ≠ 0) :
    2 ^ value.log2 ≤ nearest value := by
  rcases Nat.le_total 52 value.log2 with long | short
  · have total : 52 + extraBits value = value.log2 := by rw [extraBits]; omega
    rw [← total, Nat.pow_add]
    exact Nat.mul_le_mul_right _ (roundedQuotient_extraBits long).1
  · rw [nearest_of_short short]
    exact Nat.log2_self_le positive

theorem nearest_le_two_pow (value : Nat) : nearest value ≤ 2 ^ (value.log2 + 1) := by
  rcases Nat.le_total 52 value.log2 with long | short
  · have total : 53 + extraBits value = value.log2 + 1 := by rw [extraBits]; omega
    rw [← total, Nat.pow_add]
    exact Nat.mul_le_mul_right _ (roundedQuotient_extraBits long).2
  · rw [nearest_of_short short]
    exact Nat.le_of_lt Nat.lt_log2_self

theorem nearest_mono {value other : Nat} (le : value ≤ other) : nearest value ≤ nearest other := by
  rcases Nat.eq_zero_or_pos value with rfl | positive
  · exact Nat.zero_le _
  have positiveOther : other ≠ 0 := by omega
  have logs : value.log2 ≤ other.log2 :=
    (Nat.le_log2 positiveOther).mpr (Nat.le_trans (Nat.log2_self_le (by omega)) le)
  rcases Nat.lt_or_eq_of_le logs with less | same
  · calc
      nearest value ≤ 2 ^ (value.log2 + 1) := nearest_le_two_pow value
      _ ≤ 2 ^ other.log2 := Nat.pow_le_pow_right (by decide) less
      _ ≤ nearest other := two_pow_log2_le_nearest positiveOther
  · have bits : extraBits value = extraBits other := by rw [extraBits, same, extraBits]
    rw [nearest, nearest, bits]
    exact Nat.mul_le_mul_right _ (roundedQuotient_mono le _)

theorem nearestInt_mono {value other : Int} (le : value ≤ other) :
    nearestInt value ≤ nearestInt other := by
  rw [nearestInt, nearestInt]
  split
  · split
    · have below := nearest_mono (show other.natAbs ≤ value.natAbs by omega)
      omega
    · omega
  · rw [if_neg (by omega)]
    have below := nearest_mono (show value.natAbs ≤ other.natAbs by omega)
    omega

theorem nearestInt_lt_iff {bound image : Int} (below : nearestInt (bound - 1) < image)
    (above : image ≤ nearestInt bound) (value : Int) : nearestInt value < image ↔ value < bound := by
  constructor
  · intro small
    apply Int.not_le.mp
    intro large
    have mono := nearestInt_mono large
    omega
  · intro small
    have mono := nearestInt_mono (Int.le_sub_one_of_lt small)
    omega

end LiterateTest.Double
