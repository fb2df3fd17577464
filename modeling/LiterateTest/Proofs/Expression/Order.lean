import LiterateTest.Proofs.Expression.Equality

/-! Order of values. Numbers, strings and truth values are ordered so that of two just one is less, or
they are equal as equality has it. -/

namespace LiterateTest.Expression

/-! ## Order -/

/-- The pairs of values that are ordered: two numbers, two strings or two truth values. -/
def comparable : Json → Json → Bool
  | .number _, .number _ => true
  | .string _, .string _ => true
  | .bool _, .bool _ => true
  | _, _ => false

theorem comparable_comm (left right : Json) : comparable left right = comparable right left := by
  cases left <;> cases right <;> rfl

theorem exists_compareValues {left right : Json} (isComparable : comparable left right = true) :
    ∃ ordering, compareValues left right = .ok ordering ∧
      compareValues right left = .ok ordering.swap ∧
      valuesEqual left right = (ordering == .eq) := by
  cases left with
  | null | list _ | map _ => cases right <;> cases isComparable
  | bool first =>
      cases right with
      | bool second => exact ⟨_, rfl, congrArg Except.ok Std.OrientedOrd.eq_swap, by
          cases first <;> cases second <;> rfl⟩
      | _ => cases isComparable
  | number first =>
      cases right with
      | number second =>
          rcases exists_compareNumbers? first second with ⟨ordering, compared⟩
          refine ⟨ordering, ?_, ?_, ?_⟩
          · rw [compareValues, compared]
          · rw [compareValues, compareNumbers?_swap first second, compared]
            rfl
          · rw [valuesEqual, numbersEqual_eq, compared]
            rfl
      | _ => cases isComparable
  | string first =>
      cases right with
      | string second =>
          refine ⟨_, rfl, congrArg Except.ok Std.OrientedOrd.eq_swap, ?_⟩
          rw [valuesEqual, Bool.eq_iff_iff]
          simp
      | _ => cases isComparable

theorem comparable_of_compareValues {left right : Json} {ordering : Ordering}
    (compared : compareValues left right = .ok ordering) : comparable left right = true := by
  cases left with
  | null | list _ | map _ => cases right <;> cases compared
  | bool first | number first | string first =>
      cases right with
      | bool second | number second | string second => first | rfl | cases compared
      | _ => cases compared

/-! ## Expressions -/

section

variable {scope : Scope} {first second : Expr} {left right : Json}

theorem evaluateIn_of_operands {op : BinaryOp} (strict : op ≠ .and ∧ op ≠ .or)
    (evaluatesFirst : evaluateIn scope first = .ok left)
    (evaluatesSecond : evaluateIn scope second = .ok right) :
    evaluateIn scope (.binary op first second) = binaryOperation op left right := by
  rw [evaluateIn_binary strict, evaluatesFirst, evaluatesSecond]
  rfl

theorem exists_less_iff :
    (∃ value, binaryOperation .less left right = .ok value) ↔ comparable left right = true := by
  rw [binaryOperation]
  constructor
  · rintro ⟨value, ok⟩
    cases compared : compareValues left right with
    | ok ordering => exact comparable_of_compareValues compared
    | error fault =>
        rw [compared] at ok
        cases ok
  · intro isComparable
    rcases exists_compareValues isComparable with ⟨ordering, compared, -, -⟩
    rw [compared]
    exact ⟨_, rfl⟩

/-- Equality and order agree with each other, for any two values. -/
theorem evaluateIn_coherent (evaluatesFirst : evaluateIn scope first = .ok left)
    (evaluatesSecond : evaluateIn scope second = .ok right) (sorted : left.IsSorted)
    (sortedRight : right.IsSorted) :
    evaluateIn scope (.binary .equal first first) = .ok (.bool true) ∧
    (∃ equal : Bool, evaluateIn scope (.binary .equal first second) = .ok (.bool equal) ∧
      evaluateIn scope (.binary .equal second first) = .ok (.bool equal)) ∧
    ((∃ value, evaluateIn scope (.binary .less first second) = .ok value) ↔
      comparable left right = true) ∧
    ((∃ value, evaluateIn scope (.binary .less second first) = .ok value) ↔
      comparable left right = true) ∧
    (comparable left right = true →
      ∃ less equal greater : Bool, [less, equal, greater].count true = 1 ∧
        evaluateIn scope (.binary .less first second) = .ok (.bool less) ∧
        evaluateIn scope (.binary .equal first second) = .ok (.bool equal) ∧
        evaluateIn scope (.binary .less second first) = .ok (.bool greater) ∧
        evaluateIn scope (.binary .lessEqual first second) = .ok (.bool !greater) ∧
        evaluateIn scope (.binary .greater first second) = .ok (.bool greater) ∧
        evaluateIn scope (.binary .greaterEqual first second) = .ok (.bool !less)) := by
  have operation (op : BinaryOp) (strict : op ≠ .and ∧ op ≠ .or) :=
    evaluateIn_of_operands strict evaluatesFirst evaluatesSecond
  have opposite (op : BinaryOp) (strict : op ≠ .and ∧ op ≠ .or) :=
    evaluateIn_of_operands strict evaluatesSecond evaluatesFirst
  refine ⟨?_, ⟨valuesEqual left right, ?_, ?_⟩, ?_, ?_, ?_⟩
  · rw [evaluateIn_of_operands (by decide) evaluatesFirst evaluatesFirst, binaryOperation,
      valuesEqual_self sorted]
  · rw [operation .equal (by decide), binaryOperation]
  · rw [opposite .equal (by decide), binaryOperation, valuesEqual_comm sorted sortedRight]
  · rw [operation .less (by decide), exists_less_iff]
  · rw [opposite .less (by decide), exists_less_iff, comparable_comm]
  · intro isComparable
    rcases exists_compareValues isComparable with ⟨ordering, compared, swapped, equal⟩
    refine ⟨ordering == .lt, ordering == .eq, ordering == .gt, ?_⟩
    rw [operation .less (by decide), operation .equal (by decide), opposite .less (by decide),
      operation .lessEqual (by decide), operation .greater (by decide),
      operation .greaterEqual (by decide)]
    cases ordering <;>
      simp [binaryOperation, compared, swapped, equal, Except.map, orderingHolds]

end

theorem evaluateIn_coherent_of_double :
    let double : Number := .float (Float.ofBits 0x3FF0000000000000) (by decide)
    let record (number : Number) : Json := .map [("a", .null), ("b", .number number)]
    let scope : Scope :=
      ⟨[("x", .number .one), ("y", .number double)], [("v", record .one), ("w", record double)]⟩
    (record .one).IsSorted ∧ (record double).IsSorted ∧
      (∃ equal : Bool,
        evaluateIn scope (.binary .equal (.reference "v") (.reference "w")) = .ok (.bool equal) ∧
        evaluateIn scope (.binary .equal (.reference "w") (.reference "v")) = .ok (.bool equal)) ∧
      comparable (.number .one) (.number double) = true ∧
      ∃ greater : Bool,
        evaluateIn scope (.binary .less (.reference "y") (.reference "x")) = .ok (.bool greater) ∧
        evaluateIn scope (.binary .lessEqual (.reference "x") (.reference "y")) =
          .ok (.bool !greater) := by
  intro double record scope
  have sorted (number : Number) : (record number).IsSorted := by
    have keys : ["a", "b"].Pairwise (· < ·) := by decide
    refine .map keys ?_
    intro entry member
    rcases List.mem_cons.mp member with rfl | member
    · exact .null
    · rw [List.mem_singleton.mp member]
      exact .number number
  have value {name : String} {value : Json} (found : scope.get? name = some value) :
      evaluateIn scope (.reference name) = .ok value := by
    rw [evaluateIn, Scope.lookup, found]
  have first : evaluateIn scope (.reference "v") = .ok (record .one) := value rfl
  have second : evaluateIn scope (.reference "w") = .ok (record double) := value rfl
  have maps := evaluateIn_coherent first second (sorted .one) (sorted double)
  have one : evaluateIn scope (.reference "x") = .ok (.number .one) := value rfl
  have same : evaluateIn scope (.reference "y") = .ok (.number double) := value rfl
  have numbers := evaluateIn_coherent one same (.number .one) (.number double)
  rcases numbers.2.2.2.2 rfl with ⟨less, equal, greater, -, -, -, isGreater, notGreater, -⟩
  exact ⟨sorted .one, sorted double, maps.2.1, rfl, greater, isGreater, notGreater⟩

end LiterateTest.Expression
