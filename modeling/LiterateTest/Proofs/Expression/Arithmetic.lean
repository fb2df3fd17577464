import LiterateTest.Proofs.Expression.Scope

/-! Arithmetic of integers. An expression that combines integers by operators has the value that it
has among all integers, however large they are, unless one of the operations on the way to it fails;
then it fails as the first of them does. -/

namespace LiterateTest

namespace Number

theorem ofSigned?_eq_some_iff {value : Int} {number : Number} :
    ofSigned? value = some number ↔ number.signed? = some value := by
  rw [ofSigned?]
  constructor
  · intro made
    split at made
    · next fits =>
        cases made
        rw [signed?, if_pos fits.2]
    · cases made
  · intro signed
    cases number with
    | float other finite => cases signed
    | int other fits =>
        rw [signed?] at signed
        split at signed
        · next small =>
            cases signed
            rw [dif_pos ⟨fits.1, small⟩]
        · cases signed

theorem ofSigned?_eq_none_iff {value : Int} :
    ofSigned? value = none ↔ ¬(-(2 ^ 63) ≤ value ∧ value < 2 ^ 63) := by
  rw [ofSigned?]
  constructor
  · intro none fits
    rw [dif_pos fits] at none
    cases none
  · intro outside
    exact dif_neg outside

end Number

namespace Expression

/-! ## Operations -/

inductive ArithmeticOp where
  | add | sub | mul | div | rem

namespace ArithmeticOp

def binaryOp : ArithmeticOp → BinaryOp
  | add => .add
  | sub => .sub
  | mul => .mul
  | div => .div
  | rem => .rem

def result : ArithmeticOp → Int → Int → Int
  | add => (· + ·)
  | sub => (· - ·)
  | mul => (· * ·)
  | div => Int.tdiv
  | rem => Int.tmod

theorem strict (op : ArithmeticOp) : op.binaryOp ≠ .and ∧ op.binaryOp ≠ .or := by
  cases op <;> decide

end ArithmeticOp

inductive Operation where
  | negation (operand : Int)
  | binary (op : ArithmeticOp) (left right : Int)

namespace Operation

def result : Operation → Int
  | negation operand => -operand
  | binary op left right => op.result left right

/-- Nothing is divided by zero, and the remainder of the least integer by minus one is not taken,
although it would be zero: the quotient that goes with it is too large. -/
def isUndefined : Operation → Bool
  | binary .div _ right => right == 0
  | binary .rem left right => right == 0 || (left == -(2 ^ 63) && right == -1)
  | _ => false

def fails (operation : Operation) : Bool :=
  operation.isUndefined || decide ¬(-(2 ^ 63) ≤ operation.result ∧ operation.result < 2 ^ 63)

def fault : Operation → ValueFault
  | negation _ => .negationOverflow
  | binary .div _ 0 => .divisionByZero
  | binary .rem _ 0 => .modulusByZero
  | binary op _ _ => .overflow op.binaryOp

end Operation

example : (Operation.binary .div (-(2 ^ 63)) (-1)).fails = true := by decide
example : (Operation.binary .rem (-7) 2).result = -1 := by decide

/-! ## Outcomes -/

/-- Whether operations come to an outcome one after the other: to the fault of the first that fails,
and to an integer if none does. -/
def ComesTo (operations : List Operation) (value : Int) (outcome : Except Fault Json) : Prop :=
  match operations.find? Operation.fails with
  | some first => outcome = .error (.value first.fault)
  | none => ∃ number : Number, number.signed? = some value ∧ outcome = .ok (.number number)

section

variable {operations later : List Operation} {value result : Int} {outcome : Except Fault Json}

theorem ComesTo.bind {next : Json → Except Fault Json} (first : ComesTo operations value outcome)
    (continues : ∀ number : Number, number.signed? = some value →
      ComesTo later result (next (.number number))) :
    ComesTo (operations ++ later) result (outcome >>= next) := by
  rw [ComesTo] at first ⊢
  rw [List.find?_append]
  split at first
  · next failing found =>
      rw [found, first]
      rfl
  · next noneFails =>
      rcases first with ⟨number, signed, rfl⟩
      rw [noneFails]
      exact continues number signed

theorem ComesTo.fails_iff (comes : ComesTo operations value outcome) :
    (∃ fault, outcome = .error fault) ↔ ∃ operation ∈ operations, operation.fails = true := by
  rw [ComesTo] at comes
  split at comes
  · next first found =>
      exact ⟨fun _ => ⟨first, List.mem_of_find?_eq_some found, List.find?_some found⟩,
        fun _ => ⟨_, comes⟩⟩
  · next noneFails =>
      rcases comes with ⟨number, signed, rfl⟩
      rw [List.find?_eq_none] at noneFails
      constructor
      · rintro ⟨fault, failed⟩
        cases failed
      · rintro ⟨operation, member, fails⟩
        exact absurd fails (noneFails operation member)

end

/-! ## Single operations -/

def Operation.outcome (operation : Operation) : Except Fault Json :=
  if operation.isUndefined then .error (.value operation.fault)
  else
    match Number.ofSigned? operation.result with
    | some number => .ok (.number number)
    | none => .error (.value operation.fault)

theorem comesTo_outcome (operation : Operation) :
    ComesTo [operation] operation.result operation.outcome := by
  rw [ComesTo, List.find?_singleton, Operation.outcome]
  cases isUndefined : operation.isUndefined with
  | true =>
      rw [Operation.fails, isUndefined]
      rfl
  | false =>
      rw [Operation.fails, isUndefined, Bool.false_or]
      cases made : Number.ofSigned? operation.result with
      | none =>
          rw [decide_eq_true (Number.ofSigned?_eq_none_iff.mp made)]
          rfl
      | some number =>
          have inside := mt Number.ofSigned?_eq_none_iff.mpr (made ▸ Option.some_ne_none number)
          rw [decide_eq_false inside]
          exact ⟨number, Number.ofSigned?_eq_some_iff.mp made, rfl⟩

theorem negate_eq {number : Number} {value : Int} (signed : number.signed? = some value) :
    negate number = (Operation.negation value).outcome := by
  rw [negate, signed]
  rfl

theorem exactResult_eq (op : ArithmeticOp) (left right : Int) :
    exactResult op.binaryOp left right =
      if (Operation.binary op left right).isUndefined then
        .error (.value (Operation.binary op left right).fault)
      else .ok (op.result left right) := by
  cases op with
  | add | sub | mul => rfl
  | div =>
      by_cases zero : right = 0
      · subst zero
        rfl
      · simp [exactResult, ArithmeticOp.binaryOp, Operation.isUndefined, zero, ArithmeticOp.result]
  | rem =>
      by_cases zero : right = 0
      · subst zero
        rfl
      · simp [exactResult, ArithmeticOp.binaryOp, Operation.isUndefined, zero, ArithmeticOp.result,
          Operation.fault]

theorem Operation.fault_of_defined {op : ArithmeticOp} {left right : Int}
    (isDefined : (binary op left right).isUndefined ≠ true) :
    (binary op left right).fault = .overflow op.binaryOp := by
  by_cases zero : right = 0
  · subst zero
    cases op with
    | add | sub | mul => rfl
    | div | rem => exact absurd rfl isDefined
  · cases op <;> simp [fault, zero]

theorem integerArithmetic_eq (op : ArithmeticOp) (left right : Int) :
    integerArithmetic op.binaryOp left right = (Operation.binary op left right).outcome := by
  rw [integerArithmetic, exactResult_eq, Operation.outcome]
  split
  · rfl
  · next isDefined =>
      rw [Operation.fault_of_defined isDefined]
      rfl

theorem binaryOperation_integers (op : ArithmeticOp) {number other : Number} {left right : Int}
    (signed : number.signed? = some left) (signedOther : other.signed? = some right) :
    binaryOperation op.binaryOp (.number number) (.number other) =
      (Operation.binary op left right).outcome := by
  have arithmetic : arithmetic op.binaryOp (.number number) (.number other) =
      integerArithmetic op.binaryOp left right := by
    rw [arithmetic, signed, signedOther]
  rw [← integerArithmetic_eq, ← arithmetic]
  cases op <;> rfl

/-! ## Expressions -/

/-- Expressions that combine integers, given as literals or by names, with what they come to among
all integers, and the operations that this takes, in the order in which they are carried out. -/
inductive Computes (scope : Scope) : Expr → Int → List Operation → Prop
  | literal {number : Number} {value : Int} (signed : number.signed? = some value) :
      Computes scope (.literal (.number number)) value []
  | reference {name : String} {number : Number} {value : Int}
      (found : scope.get? name = some (.number number)) (signed : number.signed? = some value) :
      Computes scope (.reference name) value []
  | negation {operand : Expr} {value : Int} {operations : List Operation}
      (computes : Computes scope operand value operations) :
      Computes scope (.unary .neg operand) (-value) (operations ++ [.negation value])
  | binary (op : ArithmeticOp) {left right : Expr} {first second : Int}
      {before after : List Operation} (computesLeft : Computes scope left first before)
      (computesRight : Computes scope right second after) :
      Computes scope (.binary op.binaryOp left right) (op.result first second)
        (before ++ (after ++ [.binary op first second]))

section

variable {scope : Scope} {expr : Expr} {value : Int} {operations : List Operation}

theorem computes_literalInt (value : Fin (2 ^ 63)) :
    Computes scope (literalInt value) value.val [] := by
  rw [literalInt]
  apply Computes.literal
  rw [Number.signed?, if_pos]
  omega

theorem Computes.comesTo (computes : Computes scope expr value operations) :
    ComesTo operations value (evaluateIn scope expr) := by
  induction computes with
  | literal signed =>
      rw [evaluateIn]
      exact ⟨_, signed, rfl⟩
  | reference found signed =>
      rw [evaluateIn, Scope.lookup, found]
      exact ⟨_, signed, rfl⟩
  | negation computes induction =>
      rw [evaluateIn]
      apply induction.bind
      intro number signed
      rw [unaryOperation, negate_eq signed]
      exact comesTo_outcome _
  | binary op computesLeft computesRight inductionLeft inductionRight =>
      rw [evaluateIn_binary op.strict]
      apply inductionLeft.bind
      intro number signed
      apply inductionRight.bind
      intro other signedOther
      rw [binaryOperation_integers op signed signedOther]
      exact comesTo_outcome _

/-- The value of an expression of integers is the one among all integers, and it fails just if an
operation does, be it that the operation is undefined or that its result is outside of the signed
64-bit range. -/
theorem evaluateIn_arithmetic (computes : Computes scope expr value operations) :
    ComesTo operations value (evaluateIn scope expr) ∧
      ((∃ fault, evaluateIn scope expr = .error fault) ↔
        ∃ operation ∈ operations, operation.fails = true) :=
  ⟨computes.comesTo, computes.comesTo.fails_iff⟩

end

theorem evaluateIn_arithmetic_of_overflow :
    let scope : Scope := ⟨[], [("least", .number (.int (-(2 ^ 63)) (by decide)))]⟩
    let expr : Expr :=
      .binary .add (.binary .rem (.unary .neg (literalInt 7)) (literalInt 2))
        (.binary .div (.reference "least") (.unary .neg (literalInt 1)))
    Computes scope expr (2 ^ 63 - 1)
        [.negation 7, .binary .rem (-7) 2, .negation 1, .binary .div (-(2 ^ 63)) (-1),
          .binary .add (-1) (2 ^ 63)] ∧
      evaluateIn scope expr = .error (.value (.overflow .div)) := by
  intro scope expr
  have remainder : Computes scope (.binary .rem (.unary .neg (literalInt 7)) (literalInt 2)) (-1)
      [.negation 7, .binary .rem (-7) 2] :=
    .binary .rem (computes_literalInt 7).negation (computes_literalInt 2)
  have least : Computes scope (.reference "least") (-(2 ^ 63)) [] := .reference rfl rfl
  have quotient : Computes scope (.binary .div (.reference "least") (.unary .neg (literalInt 1)))
      (2 ^ 63) [.negation 1, .binary .div (-(2 ^ 63)) (-1)] :=
    .binary .div least (computes_literalInt 1).negation
  have computes := Computes.binary .add remainder quotient
  exact ⟨computes, (evaluateIn_arithmetic computes).1⟩

end Expression

end LiterateTest
