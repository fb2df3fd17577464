import Mathlib
import LiterateTest.Proofs.Document.Field
import LiterateTest.Proofs.Number.Magnitude

/-! Timeouts, in text and in the front matter of a command: which of them are read, which are
refused, and which are too long to be held. -/

namespace LiterateTest

open Double

/-! ## Numbers of seconds -/

namespace Duration

/-- Whether a duration is as close to a number of seconds as nanoseconds can be. -/
def IsNearest (duration : Duration) (seconds : ℚ) : Prop :=
  |(duration.nanoseconds : ℚ) - seconds * perSecond| ≤ 1 / 2

theorem divideToNearest_error (dividend : Nat) {divisor : Nat} (positive : 0 < divisor) :
    |(divideToNearest dividend divisor : ℚ) - dividend / divisor| ≤ 1 / 2 := by
  have parts := Nat.div_add_mod dividend divisor
  have rest := Nat.mod_lt dividend positive
  have bounds : 2 * (divideToNearest dividend divisor * divisor) ≤ 2 * dividend + divisor ∧
      2 * dividend ≤ 2 * (divideToNearest dividend divisor * divisor) + divisor := by
    rw [Nat.mul_comm divisor] at parts
    rw [divideToNearest]
    split
    · next up =>
        rw [Nat.add_mul, Nat.one_mul]
        simp only [Bool.or_eq_true, Bool.and_eq_true, decide_eq_true_eq, beq_iff_eq] at up
        omega
    · next down =>
        simp only [Bool.or_eq_true, Bool.and_eq_true, decide_eq_true_eq, beq_iff_eq] at down
        omega
  have positiveRat : (0 : ℚ) < divisor := by exact_mod_cast positive
  have above : (2 * (divideToNearest dividend divisor * divisor) : ℚ) ≤ 2 * dividend + divisor := by
    exact_mod_cast bounds.1
  have below : (2 * dividend : ℚ) ≤ 2 * (divideToNearest dividend divisor * divisor) + divisor := by
    exact_mod_cast bounds.2
  rw [abs_le]
  constructor
  · rw [neg_le_sub_iff_le_add, div_le_iff₀ positiveRat]
    linarith
  · rw [sub_le_iff_le_add', ← sub_le_iff_le_add, le_div_iff₀ positiveRat]
    linarith

theorem isNearest_nanoseconds (number : Dyadic) :
    IsNearest
      ⟨if 0 ≤ number.exponent then number.magnitude * perSecond * 2 ^ number.exponent.toNat
        else divideToNearest (number.magnitude * perSecond) (2 ^ (-number.exponent).toNat)⟩
      |number.exactValue| := by
  have value : |number.exactValue| = number.magnitude * 2 ^ number.exponent := by
    rw [Dyadic.exactValue]
    split <;> simp [abs_mul]
  rw [IsNearest, value]
  split
  · next nonneg =>
      obtain ⟨bits, same⟩ := Int.eq_ofNat_of_zero_le nonneg
      rw [same, zpow_natCast, Int.toNat_natCast]
      push_cast
      rw [mul_right_comm, sub_self, abs_zero]
      norm_num
  · next negative =>
      obtain ⟨bits, same⟩ : ∃ bits : Nat, number.exponent = -bits :=
        ⟨(-number.exponent).toNat, by omega⟩
      have error := divideToNearest_error (number.magnitude * perSecond) (Nat.two_pow_pos bits)
      rw [same, zpow_neg, zpow_natCast, ← div_eq_mul_inv, Int.neg_neg, Int.toNat_natCast,
        div_mul_eq_mul_div]
      exact_mod_cast error

theorem IsNearest.seconds_lt_iff {duration : Duration} {seconds : ℚ}
    (nearest : duration.IsNearest seconds) (apart : seconds < 2 ^ 64 - 1 ∨ 2 ^ 64 ≤ seconds) :
    duration.seconds < 2 ^ 64 ↔ seconds < 2 ^ 64 := by
  have error := abs_le.mp nearest
  rw [perSecond] at error
  push_cast at error
  rw [Duration.seconds, Nat.div_lt_iff_lt_mul (by decide), perSecond]
  constructor
  · intro below
    have whole : (duration.nanoseconds : ℚ) ≤ 2 ^ 64 * 10 ^ 9 - 1 := by
      exact_mod_cast Int.le_sub_one_of_lt (Int.ofNat_lt.mpr below)
    linarith
  · intro below
    have small := apart.resolve_right (not_le.mpr below)
    rw [← @Nat.cast_lt ℚ]
    push_cast
    linarith

section

variable {value : Float} (unsigned : Unsigned value.toModel.unpack)

include unsigned

theorem exists_ofFloat? (finite : value.isFinite = true) :
    ∃ duration : Duration, duration.IsNearest (toRational value) ∧
      ofFloat? value = if duration.seconds < 2 ^ 64 then some duration else none := by
  have nonneg : |(Dyadic.ofFloat value).exactValue| = toRational value := by
    rw [exactValue_ofFloat finite, toRational]
    exact abs_of_nonneg unsigned.exactValue_nonneg
  have notRefused : (value.isNaN || value.isInf || decide (value < 0)) = false := by
    have number := (unsigned_iff value).mp unsigned
    rw [number.1, (isNumber_of_isFinite finite).2, decide_eq_false number.2]
    rfl
  refine ⟨_, nonneg ▸ isNearest_nanoseconds (Dyadic.ofFloat value), ?_⟩
  rw [ofFloat?, notRefused]
  rfl

theorem ofFloat?_of_within (within : Within 11 value.toModel.unpack) :
    ∃ duration, ofFloat? value = some duration ∧ duration.IsNearest (toRational value) := by
  have bounds := (within_iff (canonical_unpack _) unsigned (show _ < (2 ^ 64 - 1 : ℚ) by norm_num)
    (by norm_num)).mp within
  rcases exists_ofFloat? unsigned bounds.1 with ⟨duration, nearest, read⟩
  have fits := (nearest.seconds_lt_iff (.inl bounds.2)).mpr (lt_trans bounds.2 (by norm_num))
  exact ⟨duration, read.trans (if_pos fits), nearest⟩

theorem ofFloat?_of_not_within (notWithin : ¬Within 11 value.toModel.unpack) :
    ofFloat? value = none := by
  by_cases finite : value.isFinite = true
  · have large : 2 ^ 64 ≤ toRational value := not_lt.mp fun below =>
      notWithin ((within_iff (canonical_unpack _) unsigned (by norm_num) le_rfl).mpr
        ⟨finite, below⟩)
    rcases exists_ofFloat? unsigned finite with ⟨duration, nearest, read⟩
    have fits := mt (nearest.seconds_lt_iff (.inr large)).mp (not_lt.mpr large)
    exact read.trans (if_neg fits)
  · have infinite : value.isInf = true := by
      change ¬value.toModel.unpack.isFinite = true at finite
      change value.toModel.unpack.isInf = true
      generalize value.toModel.unpack = unpacked at unsigned finite
      cases unsigned with
      | infinity => rfl
      | zero | finite => exact absurd rfl finite
    rw [ofFloat?, infinite, Bool.or_true]
    rfl

end

/-! ## Text -/

def request? (text : String) : Option (Float × Float) :=
  let (number, unit) := splitUnit (Text.trim text)
  ((Double.read? (Text.trimChars number.toList)).filter fun value =>
    value.isFinite && !(value < 0)).map (·, unit)

/-- The least number of seconds that is too long: halfway from the largest double below `2 ^ 64` to
`2 ^ 64`. -/
def excess : ℚ := 2 ^ 64 - 2 ^ 10

theorem isNormal_splitUnit (text : String) : IsNormal (splitUnit text).2.toModel.unpack := by
  rw [splitUnit]
  split <;> dsimp only
  · exact ⟨4611686018427388, -62, by decide, by rfl, by decide, by decide⟩
  · exact ⟨4503599627370496, -52, by decide, by rfl, by decide, by decide⟩
  · exact ⟨8444249301319680, -47, by decide, by rfl, by decide, by decide⟩
  · exact ⟨7916483719987200, -41, by decide, by rfl, by decide, by decide⟩
  · exact ⟨4503599627370496, -52, by decide, by rfl, by decide, by decide⟩

inductive Reads : Option (Float × Float) → Except ReadFault Duration → Prop
  | held {number unit : Float} {duration : Duration}
      (small : toRational number * toRational unit < excess)
      (nearest : duration.IsNearest (toRational (number * unit))) :
      Reads (some (number, unit)) (.ok duration)
  | tooLong {number unit : Float} (large : excess ≤ toRational number * toRational unit) :
      Reads (some (number, unit)) (.error .outOfRange)
  | invalid : Reads none (.error .invalid)

theorem reads_read (text : String) : Reads (request? text) (read text) := by
  have normal := isNormal_splitUnit (Text.trim text)
  unfold read request?
  generalize splitUnit (Text.trim text) = parts at normal
  obtain ⟨number, unit⟩ := parts
  dsimp only at normal ⊢
  cases Double.read? (Text.trimChars number.toList) with
  | none => exact .invalid
  | some value =>
      dsimp only
      cases finite : value.isFinite with
      | false =>
          rw [Option.filter_some_neg (by simp [finite])]
          exact .invalid
      | true =>
          by_cases negative : value < 0
          · rw [Option.filter_some_neg (by simp [negative]), decide_eq_true negative]
            exact .invalid
          · have unsigned := unsigned_mul finite negative normal
            have within := within_mul_iff finite negative normal
            rw [Option.filter_some_pos (by simp [finite, negative]), decide_eq_false negative]
            by_cases small : toRational value * toRational unit < excess
            · rcases ofFloat?_of_within unsigned (within.mpr small) with ⟨duration, held, nearest⟩
              dsimp only [Option.map_some]
              rw [held]
              exact .held small nearest
            · dsimp only [Option.map_some]
              rw [ofFloat?_of_not_within unsigned (mt within.mp small)]
              exact .tooLong (not_lt.mp small)

example : read "18446744073709550591" = .ok (ofSeconds (2 ^ 64 - 2 ^ 11)) ∧
    read "18446744073709550592" = .error .outOfRange := by decide +kernel

end Duration

/-! ## Values of YAML -/

namespace Yaml

theorem integerOf?_range {text : List Char} {count : Int}
    (read : integerOf? text = some (some count)) : -(2 ^ 63) ≤ count ∧ count < 2 ^ 64 := by
  rw [integerOf?] at read
  split at read
  · next value _ =>
      split at read
      · next small =>
          obtain rfl : (value : Int) = count := Option.some.inj (Option.some.inj read)
          omega
      · split at read <;> cases read
  · next value _ _ =>
      split at read
      · next small =>
          obtain rfl : -(value : Int) = count := Option.some.inj (Option.some.inj read)
          omega
      · split at read <;> cases read
  · cases read

theorem ofPlain?_int {text : String} {count : Int} (read : ofPlain? text = some (.int count)) :
    integerOf? text.toList = some (some count) := by
  rw [ofPlain?] at read
  split at read
  · cases read
  · split at read
    · cases read
    · split at read
      · next found integer =>
          obtain ⟨own, rfl, same⟩ := Option.map_eq_some_iff.mp read
          cases same
          exact integer
      · split at read <;> cases read

theorem ofScalar?_int {tag : Option String} {style : ScalarStyle} {text : String} {count : Int}
    (read : ofScalar? tag style text = some (.int count)) :
    integerOf? text.toList = some (some count) := by
  rw [ofScalar?] at read
  split at read
  · obtain ⟨_, _, same⟩ := Option.map_eq_some_iff.mp read
    cases same
  · split at read
    · obtain ⟨own, integer, same⟩ := Option.map_eq_some_iff.mp read
      cases same
      exact Option.join_eq_some_iff.mp integer
    · split at read
      · obtain ⟨_, _, same⟩ := Option.map_eq_some_iff.mp read
        cases same
      · split at read
        · split at read <;> cases read
        · split at read
          · exact ofPlain?_int read
          · cases read

namespace Node

theorem value?_int_range {node : Node} {count : Int} (read : node.value? = some (.int count)) :
    -(2 ^ 63) ≤ count ∧ count < 2 ^ 64 := by
  cases node with
  | scalar tag style text =>
      rw [value?] at read
      split at read
      · obtain ⟨_, _, same⟩ := Option.map_eq_some_iff.mp read
        cases same
      · exact integerOf?_range (ofScalar?_int read)
  | sequence tag items =>
      rw [value?] at read
      obtain ⟨_, _, same⟩ := Option.map_eq_some_iff.mp read
      split at same <;> cases same
  | mapping tag entries =>
      rw [value?] at read
      obtain ⟨_, _, same⟩ := Option.map_eq_some_iff.mp read
      split at same <;> cases same

theorem value?_of_isMissing {node : Node} (missing : node.isMissing = true) :
    node.value? = some .null := by
  cases node with
  | sequence | mapping => cases missing
  | scalar tag style text =>
      rw [isMissing] at missing
      simp only [Bool.and_eq_true, Option.isNone_iff_eq_none, beq_iff_eq] at missing
      obtain ⟨⟨rfl, rfl⟩, missing⟩ := missing
      rw [value?]
      change ofPlain? text = _
      rw [ofPlain?]
      exact if_pos missing

def requested? (node : Node) : Option ℚ :=
  match node.value? with
  | some (.int count) => if 0 ≤ count then some count else none
  | some (.float value) =>
      if value.isFinite && !(value < 0) then some (toRational value) else none
  | some (.string text) =>
      (Duration.request? text).map fun (number, unit) => toRational number * toRational unit
  | _ => none

inductive Settles : Option ℚ → Except Fault (Option Duration) → Prop
  | held {seconds : ℚ} (duration : Duration) (small : seconds < Duration.excess) :
      Settles (some seconds) (.ok (some duration))
  | tooLong {seconds : ℚ} (large : Duration.excess ≤ seconds) :
      Settles (some seconds) (.error .durationOutOfRange)
  | missing : Settles none (.ok none)
  | refused : Settles none (.error .malformedYaml)

theorem settles_seconds {value : Float} (finite : value.isFinite = true) (notNegative : ¬value < 0)
    {seconds : ℚ} (within : Within 11 value.toModel.unpack ↔ seconds < Duration.excess) :
    Settles (some seconds) (timeout.seconds value) := by
  have unsigned := (unsigned_iff value).mpr ⟨(isNumber_of_isFinite finite).1, notNegative⟩
  rw [timeout.seconds, finite, decide_eq_false notNegative]
  by_cases small : seconds < Duration.excess
  · rcases Duration.ofFloat?_of_within unsigned (within.mpr small) with ⟨duration, held, -⟩
    rw [held]
    exact .held duration small
  · rw [Duration.ofFloat?_of_not_within unsigned (mt within.mp small)]
    exact .tooLong (not_lt.mp small)

theorem settles_int {count : Int} (fits : -(2 ^ 63) ≤ count ∧ count < 2 ^ 64) :
    Settles (if 0 ≤ count then some count else none) (timeout.seconds (ofInt count)) := by
  have finite := (means_ofInt fits).isFinite
  have unsigned := unsigned_ofInt_iff fits
  rw [unsigned_iff, and_iff_right (isNumber_of_isFinite finite).1] at unsigned
  split
  · next nonneg =>
      exact settles_seconds finite (unsigned.mpr nonneg) (within_ofInt_iff fits nonneg)
  · next negative =>
      rw [timeout.seconds, decide_eq_true (not_not.mp (mt unsigned.mp negative)), Bool.or_true]
      exact .refused

theorem settles_float (value : Float) :
    Settles (if value.isFinite && !(value < 0) then some (toRational value) else none)
      (timeout.seconds value) := by
  cases finite : value.isFinite with
  | false =>
      rw [timeout.seconds, finite]
      exact .refused
  | true =>
      by_cases negative : value < 0
      · rw [timeout.seconds, finite, decide_eq_true negative]
        exact .refused
      · have unsigned := (unsigned_iff value).mpr ⟨(isNumber_of_isFinite finite).1, negative⟩
        have within := within_iff (canonical_unpack _) unsigned
          (show _ < Duration.excess by rw [Duration.excess]; norm_num)
          (by rw [Duration.excess]; norm_num)
        rw [decide_eq_false negative]
        exact settles_seconds finite negative (within.trans (and_iff_right finite))

theorem settles_timeout (node : Node) : Settles node.requested? node.timeout := by
  cases missing : node.isMissing with
  | true =>
      rw [requested?, value?_of_isMissing missing, timeout, missing]
      exact .missing
  | false =>
      rw [requested?, timeout, missing]
      cases read : node.value? with
      | none => exact .refused
      | some value =>
          cases value with
          | null => exact .missing
          | bool | sequence | mapping | tagged => exact .refused
          | int count => exact settles_int (value?_int_range read)
          | float value => exact settles_float value
          | string text =>
              have reads := Duration.reads_read text
              dsimp only
              generalize Duration.request? text = request at reads ⊢
              generalize Duration.read text = outcome at reads ⊢
              cases reads with
              | held small => exact .held _ small
              | tooLong large => exact .tooLong large
              | invalid => exact .refused

end Node

end Yaml

/-! ## Front matter of commands -/

namespace Overrides

open Yaml (Node)

def AsksTooMuch (node : Node) : Prop :=
  ∃ seconds, node.requested? = some seconds ∧ Duration.excess ≤ seconds

theorem setField_timeout {node : Node} (asks : AsksTooMuch node) (overrides : Overrides) :
    overrides.setField ("timeout", node) = .error .durationOutOfRange := by
  obtain ⟨seconds, requested, large⟩ := asks
  have settles := node.settles_timeout
  rw [requested] at settles
  rw [setField]
  generalize node.timeout = outcome at settles ⊢
  cases settles with
  | held duration small => exact absurd small (not_lt.mpr large)
  | tooLong => rfl

theorem fault_of_map_orMalformed {α β : Type} {value : Option α} {make : α → β} {fault : Fault}
    (failed : (Node.orMalformed value).map make = .error fault) : fault = .malformedYaml := by
  cases value with
  | none =>
      cases failed
      rfl
  | some found => cases failed

theorem fault_of_setField {overrides : Overrides} {name : String} {node : Node} {fault : Fault}
    (failed : overrides.setField (name, node) = .error fault) :
    fault = .malformedYaml ∨
      fault = .durationOutOfRange ∧ name = "timeout" ∧ AsksTooMuch node := by
  unfold setField at failed
  split at failed
  · exact .inl (fault_of_map_orMalformed failed)
  · exact .inl (fault_of_map_orMalformed failed)
  · exact .inl (fault_of_map_orMalformed failed)
  · next own same =>
      obtain ⟨rfl, rfl⟩ := Prod.mk.inj same
      have settles := node.settles_timeout
      generalize requested : node.requested? = asked at settles
      generalize node.timeout = outcome at settles failed
      cases settles with
      | held | missing => cases failed
      | tooLong large =>
          cases failed
          exact .inr ⟨rfl, rfl, _, requested, large⟩
      | refused =>
          cases failed
          exact .inl rfl
  · exact .inl (fault_of_map_orMalformed failed)
  · cases failed

/-- Whether front matter can be read up to a timeout, the first one, that asks for too many
seconds. -/
def AsksTooLong (yaml : String) : Prop :=
  Text.isBlankText yaml = false ∧
    ∃ before key node after reached,
      (Yaml.Reading.ofText yaml).entries = before ++ (key, node) :: after ∧
      before.foldlM (enterField fieldNames setField) ([], {}) = .ok reached ∧
      (∀ entry ∈ before, entry.1.text? ≠ some "timeout") ∧
      key.text? = some "timeout" ∧ AsksTooMuch node

theorem isFresh_iff {entries : List (Node × Node)} {reached : List String × Overrides}
    (run : entries.foldlM (enterField fieldNames setField) ([], {}) = .ok reached) :
    "timeout" ∉ reached.1 ↔ ∀ entry ∈ entries, entry.1.text? ≠ some "timeout" := by
  rw [mem_seen_iff run (by decide)]
  simp

theorem ofYaml_of_asksTooLong {yaml : String} (asks : AsksTooLong yaml) :
    ofYaml yaml = .error .durationOutOfRange := by
  obtain ⟨notBlank, before, key, node, after, reached, split, run, first, named, tooMuch⟩ := asks
  have fails : enterField fieldNames setField reached (key, node) = .error .durationOutOfRange := by
    rw [enterField_fresh named (by decide) ((isFresh_iff run).mpr first),
      setField_timeout tooMuch]
    rfl
  have failed := foldlM_eq_error_iff.mpr ⟨before, (key, node), after, reached, split, run, fails⟩
  rcases @readFields_cases _ fieldNames setField {} yaml with
    ⟨blank, -⟩ | ⟨-, ⟨fault, own, result⟩ | ⟨other, own, -⟩⟩
  · rw [notBlank] at blank
    cases blank
  · rw [failed] at own
    cases own
    exact result
  · rw [failed] at own
    cases own

theorem fault_of_ofYaml {yaml : String} {fault : Fault} (failed : ofYaml yaml = .error fault) :
    fault = .malformedYaml ∨ fault = .durationOutOfRange ∧ AsksTooLong yaml := by
  rw [ofYaml] at failed
  rcases @readFields_cases _ fieldNames setField {} yaml with
    ⟨-, result⟩ | ⟨notBlank, ⟨own, run, result⟩ | ⟨reached, -, result⟩⟩
  · rw [result] at failed
    cases failed
  · rw [result] at failed
    cases failed
    obtain ⟨before, ⟨key, node⟩, after, reached, split, run, fails⟩ := foldlM_eq_error_iff.mp run
    have enters := @enters_enterField _ fieldNames setField reached (key, node)
    rw [fails] at enters
    cases enters with
    | unnamed | repeated => exact .inl rfl
    | refused named _ fresh refused =>
        rcases fault_of_setField refused with malformed | ⟨tooLong, rfl, tooMuch⟩
        · exact .inl malformed
        · exact .inr ⟨tooLong, notBlank, before, key, node, after, reached, split, run,
            (isFresh_iff run).mp fresh, named, tooMuch⟩
  · rw [result] at failed
    split at failed
    · cases failed
    · cases failed
      exact .inl rfl

end Overrides

/-- Reading a text gives a duration or an invalid one, and reading front matter gives a value or is
malformed, unless so many seconds are asked for that the nearest double takes more than 64 bits. -/
theorem Overrides.timeouts_outcome (text yaml : String) :
    ((Duration.request? text = none ∧
        Duration.readOrFault text = .error (.invalidDuration text)) ∨
      ∃ number unit, Duration.request? text = some (number, unit) ∧
        if toRational number * toRational unit < Duration.excess then
          ∃ duration, Duration.readOrFault text = .ok duration ∧
            duration.IsNearest (toRational (number * unit))
        else Duration.readOrFault text = .error .durationOutOfRange) ∧
    ((AsksTooLong yaml ∧ ofYaml yaml = .error .durationOutOfRange) ∨
      (¬AsksTooLong yaml ∧
        ((∃ overrides, ofYaml yaml = .ok overrides) ∨ ofYaml yaml = .error .malformedYaml))) := by
  constructor
  · have reads := Duration.reads_read text
    unfold Duration.readOrFault
    generalize Duration.request? text = request at reads ⊢
    generalize Duration.read text = outcome at reads ⊢
    cases reads with
    | held small nearest =>
        refine .inr ⟨_, _, rfl, ?_⟩
        rw [if_pos small]
        exact ⟨_, rfl, nearest⟩
    | tooLong large =>
        refine .inr ⟨_, _, rfl, ?_⟩
        rw [if_neg (not_lt.mpr large)]
    | invalid => exact .inl ⟨rfl, rfl⟩
  · by_cases asks : AsksTooLong yaml
    · exact .inl ⟨asks, ofYaml_of_asksTooLong asks⟩
    · refine .inr ⟨asks, ?_⟩
      cases read : ofYaml yaml with
      | ok overrides => exact .inl ⟨overrides, rfl⟩
      | error fault =>
          rcases fault_of_ofYaml read with rfl | ⟨-, contrary⟩
          · exact .inr rfl
          · exact absurd contrary asks

theorem Overrides.timeouts_outcome_exceptions :
    Duration.readOrFault "1e30" = .error .durationOutOfRange ∧
      Duration.readOrFault "9999999999999999h" = .error .durationOutOfRange ∧
      Overrides.ofYaml "timeout: 18446744073709551615" = .error .durationOutOfRange ∧
      Overrides.ofYaml "timeout: 1e300" = .error .durationOutOfRange := by
  refine ⟨?_, ?_, ?_, ?_⟩ <;> decide +kernel

end LiterateTest
