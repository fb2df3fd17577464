import LiterateTest.Expression.Methods

/-! The value of an expression. -/

namespace LiterateTest.Expression

structure Scope where
  locals : List (String × Json)
  globals : Record Json

namespace Scope

def get? (scope : Scope) (name : String) : Option Json :=
  (Record.get? name scope.locals).orElse fun _ => Record.get? name scope.globals

def lookup (scope : Scope) (name : String) : Except Fault Json :=
  match scope.get? name with
  | some value => .ok value
  | none => .error (.unbound name)

def bind (scope : Scope) (name : String) (value : Json) : Scope :=
  { scope with locals := (name, value) :: scope.locals }

end Scope

/-! ## Loops -/

def elements (quantifier : Quantifier) : Json → Except Fault (List Json)
  | .list items => .ok items
  | .map entries => .ok ((Record.keys entries).map Json.string)
  | other => .error (.type (.elements quantifier other.type))

def asPredicate (quantifier : Quantifier) : Json → Except Fault Bool
  | .bool value => .ok value
  | other => .error (.type (.predicate quantifier other.type))

/-- Whether some element satisfies the body; the elements after the first such one are not
looked at. -/
def anyElement (body : Json → Except Fault Json) : List Json → Except Fault Bool
  | [] => .ok false
  | item :: rest => do
      let holds ← asPredicate .any (← body item)
      if holds then .ok true else anyElement body rest

def allElements (body : Json → Except Fault Json) : List Json → Except Fault Bool
  | [] => .ok true
  | item :: rest => do
      let holds ← asPredicate .all (← body item)
      if holds then allElements body rest else .ok false

def filterElements (body : Json → Except Fault Json) : List Json → Except Fault (List Json)
  | [] => .ok []
  | item :: rest => do
      let holds ← asPredicate .filter (← body item)
      let kept ← filterElements body rest
      .ok (if holds then item :: kept else kept)

def mapElements (body : Json → Except Fault Json) : List Json → Except Fault (List Json)
  | [] => .ok []
  | item :: rest => do
      let value ← body item
      let values ← mapElements body rest
      .ok (value :: values)

def quantify (quantifier : Quantifier) (body : Json → Except Fault Json) (items : List Json) :
    Except Fault Json :=
  match quantifier with
  | .any => (anyElement body items).map Json.bool
  | .all => (allElements body items).map Json.bool
  | .filter => (filterElements body items).map Json.list
  | .map => (mapElements body items).map Json.list

/-! ## Evaluation -/

def keyText (key : Json) : String := key.display

mutual
def evaluateIn (scope : Scope) : Expr → Except Fault Json
  | .literal value => .ok value
  | .reference name => scope.lookup name
  | .list items => do
      let values ← evaluateItems scope items
      .ok (.list values)
  | .map entries => do
      let record ← evaluateEntries scope [] entries
      .ok (.map record)
  | .member target name => do
      let receiver ← evaluateIn scope target
      field name receiver
  | .index target key => do
      let receiver ← evaluateIn scope target
      let keyValue ← evaluateIn scope key
      subscriptOf receiver keyValue
  | .call function arguments =>
      if function = "has" then evaluateHas scope arguments
      else do
        let values ← evaluateItems scope arguments
        callFunction function values
  | .method target name arguments => do
      let receiver ← evaluateIn scope target
      let values ← evaluateItems scope arguments
      callMethod receiver name values
  | .quantified target quantifier loopVariable body => do
      let items ← elements quantifier (← evaluateIn scope target)
      quantify quantifier (fun item => evaluateIn (scope.bind loopVariable item) body) items
  | .unary op operand => do
      let value ← evaluateIn scope operand
      unaryOperation op value
  | .binary .and left right => do
      let holds ← logicalOperand .and (← evaluateIn scope left)
      if holds then
        let value ← logicalOperand .and (← evaluateIn scope right)
        .ok (.bool value)
      else .ok (.bool false)
  | .binary .or left right => do
      let holds ← logicalOperand .or (← evaluateIn scope left)
      if holds then .ok (.bool true)
      else
        let value ← logicalOperand .or (← evaluateIn scope right)
        .ok (.bool value)
  | .binary op left right => do
      let leftValue ← evaluateIn scope left
      let rightValue ← evaluateIn scope right
      binaryOperation op leftValue rightValue
  | .conditional condition whenTrue whenFalse => do
      match ← evaluateIn scope condition with
      | .bool true => evaluateIn scope whenTrue
      | .bool false => evaluateIn scope whenFalse
      | other => .error (.type (.condition other.type))

def evaluateItems (scope : Scope) : List Expr → Except Fault (List Json)
  | [] => .ok []
  | item :: rest => do
      let value ← evaluateIn scope item
      let values ← evaluateItems scope rest
      .ok (value :: values)

def evaluateEntries (scope : Scope) (record : Record Json) :
    List (Expr × Expr) → Except Fault (Record Json)
  | [] => .ok record
  | (key, value) :: rest => do
      let keyValue ← evaluateIn scope key
      let entry ← evaluateIn scope value
      evaluateEntries scope (Record.insert (keyText keyValue) entry record) rest

/-- `has` takes the selection of a field and says whether the field is there. -/
def evaluateHas (scope : Scope) : List Expr → Except Fault Json
  | [.member target name] => do
      let receiver ← evaluateIn scope target
      .ok (.bool (hasField name receiver))
  | _ => .error (.type .fieldSelection)
end

def evaluate (bindings : Record Json) (expr : Expr) : Except Fault Json :=
  evaluateIn ⟨[], bindings⟩ expr

end LiterateTest.Expression
