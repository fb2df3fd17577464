import LiterateTest.Proofs.Expression.Conjunction
import LiterateTest.Proofs.Expression.Scope
import LiterateTest.Proofs.Number.Conversion

/-! Comparisons of integers. Where both are in the signed 64-bit range they are compared as they
are, and otherwise as the nearest doubles, so that two of them can be taken for equal. -/

namespace LiterateTest.Expression

open Double

/-! ## Numbers -/

theorem compareFloats?_eq (first second : Float) :
    compareFloats? first second = first.toModel.unpack.compare second.toModel.unpack := by
  have greater := (lt_iff_compare second first).trans
    (by rw [compare_swap first.toModel.unpack second.toModel.unpack])
  rw [compareFloats?]
  simp only [lt_iff_compare first second, greater, beq_eq_compare]
  rcases first.toModel.unpack.compare second.toModel.unpack with _ | ordering
  · rfl
  · cases ordering <;> rfl

theorem numbersEqual_eq (first second : Number) :
    numbersEqual first second = (compareNumbers? first second == some .eq) := by
  have doubles : (first.toFloat == second.toFloat) =
      (compareFloats? first.toFloat second.toFloat == some .eq) := by
    rw [compareFloats?_eq, beq_eq_compare]
  rw [numbersEqual, compareNumbers?]
  cases first.signed? with
  | none => exact doubles
  | some number =>
      cases second.signed? with
      | none => exact doubles
      | some other =>
          rw [Bool.eq_iff_iff]
          simp

/-! ## Integers -/

def compared (left right : Int) : Int × Int :=
  if left < 2 ^ 63 ∧ right < 2 ^ 63 then (left, right) else (nearestInt left, nearestInt right)

section

variable {left right : Int} (fitsLeft : -(2 ^ 63) ≤ left ∧ left < 2 ^ 64)
  (fitsRight : -(2 ^ 63) ≤ right ∧ right < 2 ^ 64)

theorem compareNumbers?_int :
    compareNumbers? (.int left fitsLeft) (.int right fitsRight) =
      some (compare (compared left right).1 (compared left right).2) := by
  have doubles : compareFloats? (ofInt left) (ofInt right) =
      some (compare (nearestInt left) (nearestInt right)) := by
    rw [compareFloats?_eq]
    exact (means_ofInt fitsLeft).compare_eq (means_ofInt fitsRight)
  rw [compareNumbers?, Number.signed?, Number.signed?, compared]
  by_cases leftSigned : left < 2 ^ 63
  · by_cases rightSigned : right < 2 ^ 63
    · simp only [leftSigned, rightSigned, and_self, if_true]
    · simp only [leftSigned, rightSigned, and_false, if_false, if_true]
      exact doubles
  · simp only [leftSigned, false_and, if_false]
    exact doubles

end

def comparison? : BinaryOp → Option (Int → Int → Bool)
  | .equal => some fun left right => left == right
  | .notEqual => some fun left right => left != right
  | .less => some fun left right => left < right
  | .lessEqual => some fun left right => left ≤ right
  | .greater => some fun left right => right < left
  | .greaterEqual => some fun left right => right ≤ left
  | _ => none

theorem strict_of_comparison? {op : BinaryOp} {holds : Int → Int → Bool}
    (isComparison : comparison? op = some holds) : op ≠ .and ∧ op ≠ .or := by
  constructor
  · rintro rfl
    cases isComparison
  · rintro rfl
    cases isComparison

theorem orderingHolds_compare {op : BinaryOp} {holds : Int → Int → Bool}
    (isComparison : comparison? op = some holds) (orders : op ≠ .equal ∧ op ≠ .notEqual)
    (number other : Int) : orderingHolds op (compare number other) = holds number other := by
  rw [Bool.eq_iff_iff]
  cases op with
  | less | lessEqual | greater | greaterEqual =>
      cases isComparison
      simp [orderingHolds, Int.compare_eq_lt, Int.compare_eq_gt]
  | equal => exact absurd rfl orders.1
  | notEqual => exact absurd rfl orders.2
  | or | and | member | add | sub | mul | div | rem => cases isComparison

theorem binaryOperation_comparison {op : BinaryOp} {holds : Int → Int → Bool}
    (isComparison : comparison? op = some holds) {left right : Int}
    (fitsLeft : -(2 ^ 63) ≤ left ∧ left < 2 ^ 64)
    (fitsRight : -(2 ^ 63) ≤ right ∧ right < 2 ^ 64) :
    binaryOperation op (.number (.int left fitsLeft)) (.number (.int right fitsRight)) =
      .ok (.bool (holds (compared left right).1 (compared left right).2)) := by
  have equal : valuesEqual (.number (.int left fitsLeft)) (.number (.int right fitsRight)) =
      ((compared left right).1 == (compared left right).2) := by
    rw [valuesEqual, numbersEqual_eq, compareNumbers?_int, Bool.eq_iff_iff]
    simp
  have ordered : compareValues (.number (.int left fitsLeft)) (.number (.int right fitsRight)) =
      .ok (compare (compared left right).1 (compared left right).2) := by
    rw [compareValues, compareNumbers?_int]
  generalize (compared left right).1 = number at equal ordered ⊢
  generalize (compared left right).2 = other at equal ordered ⊢
  cases op with
  | equal =>
      cases isComparison
      rw [binaryOperation, equal]
  | notEqual =>
      cases isComparison
      rw [binaryOperation, equal]
      rfl
  | less | lessEqual | greater | greaterEqual =>
      rw [binaryOperation, ordered, Except.map, orderingHolds_compare isComparison (by decide)]
  | or | and | member | add | sub | mul | div | rem => cases isComparison

theorem compared_lt_iff {left right : Int}
    (distinct : left < 2 ^ 63 ∧ right < 2 ^ 63 ∨ left = right ∨
      nearestInt left ≠ nearestInt right) :
    ((compared left right).1 < (compared left right).2 ↔ left < right) ∧
      ((compared left right).2 < (compared left right).1 ↔ right < left) := by
  rw [compared]
  split
  · exact ⟨Iff.rfl, Iff.rfl⟩
  · next notSigned =>
      rcases distinct with signed | rfl | different
      · exact absurd signed notSigned
      · omega
      · dsimp only
        rcases Int.lt_trichotomy left right with less | rfl | greater
        · have ordered := nearestInt_mono (Int.le_of_lt less)
          omega
        · exact absurd rfl different
        · have ordered := nearestInt_mono (Int.le_of_lt greater)
          omega

/-- A comparison of integers is one of what they are compared as. So it is right just for integers
of the signed 64-bit range, for equal ones, and for those that are not nearest to the same number of
53 bits. -/
theorem evaluateIn_comparison {scope : Scope} {left right : Expr} {first second : Int}
    {fitsFirst : -(2 ^ 63) ≤ first ∧ first < 2 ^ 64}
    {fitsSecond : -(2 ^ 63) ≤ second ∧ second < 2 ^ 64}
    (evaluatesLeft : evaluateIn scope left = .ok (.number (.int first fitsFirst)))
    (evaluatesRight : evaluateIn scope right = .ok (.number (.int second fitsSecond))) :
    (∀ op holds, comparison? op = some holds →
      evaluateIn scope (.binary op left right) =
        .ok (.bool (holds (compared first second).1 (compared first second).2))) ∧
    ((∀ op holds, comparison? op = some holds →
        evaluateIn scope (.binary op left right) = .ok (.bool (holds first second))) ↔
      first < 2 ^ 63 ∧ second < 2 ^ 63 ∨ first = second ∨
        nearestInt first ≠ nearestInt second) := by
  have value (op : BinaryOp) (holds : Int → Int → Bool)
      (isComparison : comparison? op = some holds) :
      evaluateIn scope (.binary op left right) =
        .ok (.bool (holds (compared first second).1 (compared first second).2)) := by
    rw [evaluateIn_binary (strict_of_comparison? isComparison), evaluatesLeft, evaluatesRight]
    exact binaryOperation_comparison isComparison fitsFirst fitsSecond
  refine ⟨value, ?_, ?_⟩
  · intro isRight
    have equal := value .equal _ rfl
    rw [isRight .equal _ rfl, Except.ok.injEq, Json.bool.injEq, Bool.eq_iff_iff, beq_iff_eq,
      beq_iff_eq] at equal
    rw [compared] at equal
    split at equal
    · next signed => exact .inl signed
    · by_cases same : first = second
      · exact .inr (.inl same)
      · exact .inr (.inr (mt equal.mpr same))
  · intro distinct op holds isComparison
    rcases compared_lt_iff distinct with ⟨less, greater⟩
    have same : holds (compared first second).1 (compared first second).2 =
        holds first second := by
      rw [Bool.eq_iff_iff]
      cases op with
      | equal | notEqual | less | lessEqual | greater | greaterEqual =>
          cases isComparison
          simp
          omega
      | or | and | member | add | sub | mul | div | rem => cases isComparison
    rw [value op holds isComparison, same]

theorem evaluateIn_comparison_of_distant :
    let scope : Scope :=
      ⟨[("a", .number (.int (2 ^ 63) (by decide)))],
        [("b", .number (.int (2 ^ 63 + 4096) (by decide)))]⟩
    evaluateIn scope (.reference "a") = .ok (.number (.int (2 ^ 63) (by decide))) ∧
      evaluateIn scope (.reference "b") = .ok (.number (.int (2 ^ 63 + 4096) (by decide))) ∧
      evaluateIn scope (.binary .less (.reference "a") (.reference "b")) = .ok (.bool true) := by
  intro scope
  have first : evaluateIn scope (.reference "a") =
      .ok (.number (.int (2 ^ 63) (by decide))) := by
    rw [evaluateIn]
    rfl
  have second : evaluateIn scope (.reference "b") =
      .ok (.number (.int (2 ^ 63 + 4096) (by decide))) := by
    rw [evaluateIn]
    rfl
  have distinct : nearestInt (2 ^ 63) ≠ nearestInt (2 ^ 63 + 4096) := by decide
  exact ⟨first, second,
    (evaluateIn_comparison first second).2.mpr (.inr (.inr distinct)) .less _ rfl⟩

theorem evaluateSource_comparison {source : String} {op : BinaryOp} {holds : Int → Int → Bool}
    (parsed : parse source = .ok (.binary op (.reference "a") (.reference "b")))
    (isComparison : comparison? op = some holds) {first second : Int}
    (fitsFirst : -(2 ^ 63) ≤ first ∧ first < 2 ^ 64)
    (fitsSecond : -(2 ^ 63) ≤ second ∧ second < 2 ^ 64) :
    evaluateSource
        [("a", .number (.int first fitsFirst)), ("b", .number (.int second fitsSecond))] source =
      .ok (.bool (holds (compared first second).1 (compared first second).2)) := by
  rw [evaluateSource_eq, parsed]
  change evaluate [("a", .number (.int first fitsFirst)), ("b", .number (.int second fitsSecond))]
    (.binary op (.reference "a") (.reference "b")) = _
  rw [evaluate, evaluateIn_binary (strict_of_comparison? isComparison), evaluateIn, evaluateIn]
  exact binaryOperation_comparison isComparison fitsFirst fitsSecond

/-- The last integer of the signed range equals the one behind it, which is not less than the next
one. -/
theorem evaluateSource_comparison_exceptions :
    evaluateSource
        [("a", .number (.int (2 ^ 63 - 1) (by decide))), ("b", .number (.int (2 ^ 63) (by decide)))]
        "a == b" = .ok (.bool true) ∧
      evaluateSource
        [("a", .number (.int (2 ^ 63) (by decide))),
          ("b", .number (.int (2 ^ 63 + 1) (by decide)))]
        "a < b" = .ok (.bool false) := by
  constructor
  · have equal : compared (2 ^ 63 - 1) (2 ^ 63) = (2 ^ 63, 2 ^ 63) := by decide
    rw [evaluateSource_comparison rfl rfl, equal]
    rfl
  · have equal : compared (2 ^ 63) (2 ^ 63 + 1) = (2 ^ 63, 2 ^ 63) := by decide
    rw [evaluateSource_comparison rfl rfl, equal]
    rfl

end LiterateTest.Expression
