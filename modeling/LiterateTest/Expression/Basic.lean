import LiterateTest.Json.Basic

/-! Expressions. -/

namespace LiterateTest

inductive BinaryOp where
  | or | and
  | equal | notEqual | less | lessEqual | greater | greaterEqual | member
  | add | sub | mul | div | rem
  deriving DecidableEq

inductive UnaryOp where
  | not | neg
  deriving DecidableEq

inductive Quantifier where
  | any | all | filter | map
  deriving DecidableEq

namespace BinaryOp

def name : BinaryOp → String
  | or => "Or"
  | and => "And"
  | equal => "Eq"
  | notEqual => "NotEq"
  | less => "Lt"
  | lessEqual => "LtEq"
  | greater => "Gt"
  | greaterEqual => "GtEq"
  | member => "In"
  | add => "Add"
  | sub => "Sub"
  | mul => "Mul"
  | div => "Div"
  | rem => "Rem"

end BinaryOp

namespace UnaryOp

def name : UnaryOp → String
  | not => "Not"
  | neg => "Neg"

end UnaryOp

namespace Quantifier

def name : Quantifier → String
  | any => "Exists"
  | all => "All"
  | filter => "Filter"
  | map => "Map"

def ofMethod? (method : String) : Option Quantifier :=
  if method = "exists" then some any
  else if method = "all" then some all
  else if method = "filter" then some filter
  else if method = "map" then some map
  else none

end Quantifier

inductive Expr where
  | literal (value : Json)
  | reference (name : String)
  | list (items : List Expr)
  | map (entries : List (Expr × Expr))
  | member (target : Expr) (field : String)
  | index (target key : Expr)
  | call (function : String) (arguments : List Expr)
  | method (target : Expr) (name : String) (arguments : List Expr)
  | quantified (target : Expr) (quantifier : Quantifier) (loopVariable : String) (body : Expr)
  | unary (op : UnaryOp) (operand : Expr)
  | binary (op : BinaryOp) (left right : Expr)
  | conditional (condition whenTrue whenFalse : Expr)

namespace Expr

instance : Inhabited Expr := ⟨literal .null⟩

mutual
/-- The number of expressions on the longest path from an expression to one without parts. -/
def height : Expr → Nat
  | literal _ => 1
  | reference _ => 1
  | list items => itemsHeight items + 1
  | map entries => entriesHeight entries + 1
  | member target _ => target.height + 1
  | index target key => max target.height key.height + 1
  | call _ arguments => itemsHeight arguments + 1
  | method target _ arguments => max target.height (itemsHeight arguments) + 1
  | quantified target _ _ body => max target.height body.height + 1
  | unary _ operand => operand.height + 1
  | binary _ left right => max left.height right.height + 1
  | conditional condition whenTrue whenFalse =>
      max condition.height (max whenTrue.height whenFalse.height) + 1

def itemsHeight : List Expr → Nat
  | [] => 0
  | item :: rest => max item.height (itemsHeight rest)

def entriesHeight : List (Expr × Expr) → Nat
  | [] => 0
  | (key, value) :: rest => max (max key.height value.height) (entriesHeight rest)
end

end Expr

end LiterateTest
