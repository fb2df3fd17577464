import LiterateTest.Expression.Fault

/-! What the operators do to values. Integers of the signed 64-bit range are computed with
exactly, and an operation fails when its result leaves that range; any other number takes part
as a double. -/

namespace LiterateTest.Expression

/-! ## Equality and order -/

def numbersEqual (left right : Number) : Bool :=
  match left.signed?, right.signed? with
  | some left, some right => left == right
  | _, _ => left.toFloat == right.toFloat

mutual
def valuesEqual : Json → Json → Bool
  | .null, .null => true
  | .bool left, .bool right => left == right
  | .number left, .number right => numbersEqual left right
  | .string left, .string right => left == right
  | .list left, .list right => itemsEqual left right
  | .map left, .map right => left.length == right.length && entriesEqual left right
  | _, _ => false

def itemsEqual : List Json → List Json → Bool
  | [], [] => true
  | left :: lefts, right :: rights => valuesEqual left right && itemsEqual lefts rights
  | _, _ => false

def entriesEqual : List (String × Json) → List (String × Json) → Bool
  | [], _ => true
  | (key, left) :: lefts, rights =>
      (match Record.get? key rights with
        | some right => valuesEqual left right
        | none => false) && entriesEqual lefts rights
end

def compareFloats? (left right : Float) : Option Ordering :=
  if left < right then some .lt
  else if left == right then some .eq
  else if right < left then some .gt
  else none

def compareNumbers? (left right : Number) : Option Ordering :=
  match left.signed?, right.signed? with
  | some left, some right => some (compare left right)
  | _, _ => compareFloats? left.toFloat right.toFloat

def compareValues : Json → Json → Except Fault Ordering
  | .number left, .number right =>
      match compareNumbers? left right with
      | some ordering => .ok ordering
      | none => .error (.value .incomparable)
  | .string left, .string right => .ok (compare left right)
  | .bool left, .bool right => .ok (compare left right)
  | left, right => .error (.type (.comparison left.type right.type))

/-! ## Arithmetic -/

def exactResult (op : BinaryOp) (left right : Int) : Except Fault Int :=
  match op with
  | .add => .ok (left + right)
  | .sub => .ok (left - right)
  | .mul => .ok (left * right)
  | .div => if right = 0 then .error (.value .divisionByZero) else .ok (left.tdiv right)
  | .rem =>
      if right = 0 then .error (.value .modulusByZero)
      else if left = -(2 ^ 63) ∧ right = -1 then .error (.value (.overflow .rem))
      else .ok (left.tmod right)
  | op => .error (.value (.overflow op))

def integerArithmetic (op : BinaryOp) (left right : Int) : Except Fault Json := do
  let result ← exactResult op left right
  match Number.ofSigned? result with
  | some number => .ok (.number number)
  | none => .error (.value (.overflow op))

def floatResult (op : BinaryOp) (left right : Float) : Float :=
  match op with
  | .add => left + right
  | .sub => left - right
  | .mul => left * right
  | .div => left / right
  | _ => Double.remainder left right

def floatArithmetic (op : BinaryOp) (left right : Float) : Except Fault Json :=
  match Number.ofFloat? (floatResult op left right) with
  | some number => .ok (.number number)
  | none => .error (.value (.notFinite op))

def arithmetic (op : BinaryOp) : Json → Json → Except Fault Json
  | .number left, .number right =>
      match left.signed?, right.signed? with
      | some left, some right => integerArithmetic op left right
      | _, _ => floatArithmetic op left.toFloat right.toFloat
  | left, right => .error (.type (.arithmetic op left.type right.type))

def add : Json → Json → Except Fault Json
  | .string left, .string right => .ok (.string (left ++ right))
  | .list left, .list right => .ok (.list (left ++ right))
  | left, right => arithmetic .add left right

def negate (value : Number) : Except Fault Json :=
  match value.signed? with
  | some integer =>
      match Number.ofSigned? (-integer) with
      | some number => .ok (.number number)
      | none => .error (.value .negationOverflow)
  | none =>
      match Number.ofFloat? (-value.toFloat) with
      | some number => .ok (.number number)
      | none => .error (.value (.notNegatable value))

/-! ## Operators on values -/

def unaryOperation : UnaryOp → Json → Except Fault Json
  | .not, .bool value => .ok (.bool !value)
  | .neg, .number value => negate value
  | op, other => .error (.type (.operand op other.type))

def membership (needle : Json) : Json → Except Fault Json
  | .list items => .ok (.bool (items.any fun item => valuesEqual item needle))
  | .map entries =>
      match needle with
      | .string key => .ok (.bool (Record.hasKey entries key))
      | _ => .ok (.bool false)
  | other => .error (.type (.container other.type))

def orderingHolds (op : BinaryOp) (ordering : Ordering) : Bool :=
  match op with
  | .less => ordering == .lt
  | .lessEqual => ordering != .gt
  | .greater => ordering == .gt
  | _ => ordering != .lt

def binaryOperation (op : BinaryOp) (left right : Json) : Except Fault Json :=
  match op with
  | .equal => .ok (.bool (valuesEqual left right))
  | .notEqual => .ok (.bool !(valuesEqual left right))
  | .less | .lessEqual | .greater | .greaterEqual =>
      (compareValues left right).map fun ordering => .bool (orderingHolds op ordering)
  | .member => membership left right
  | .add => add left right
  | op => arithmetic op left right

def logicalOperand (op : BinaryOp) : Json → Except Fault Bool
  | .bool value => .ok value
  | other => .error (.type (.logicalOperand op other.type))

/-! ## Selection -/

def field (name : String) : Json → Except Fault Json
  | .map entries =>
      match Record.get? name entries with
      | some value => .ok value
      | none => .error (.noSuchKey name)
  | other => .error (.type (.field name other.type))

def element? (items : List Json) (index : Int) : Option Json :=
  if index < 0 then none else items[index.toNat]?

def subscriptOf : Json → Json → Except Fault Json
  | .list items, .number key =>
      match key.signed? with
      | none => .error (.type .listIndex)
      | some index =>
          match element? items index with
          | some item => .ok item
          | none => .error (.value (.indexOutOfRange index items.length))
  | .map entries, .string key =>
      match Record.get? key entries with
      | some value => .ok value
      | none => .error (.noSuchKey key)
  | target, key => .error (.type (.subscript target.type key.type))

end LiterateTest.Expression
