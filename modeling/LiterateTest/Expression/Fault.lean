import LiterateTest.Expression.Parser
import LiterateTest.Json.Printer

/-! What can go wrong with an expression, from its text to its value. -/

namespace LiterateTest

inductive ValueType where
  | null | bool | int | double | string | list | map
  deriving DecidableEq

namespace ValueType

def name : ValueType → String
  | null => "null"
  | bool => "bool"
  | int => "int"
  | double => "double"
  | string => "string"
  | list => "list"
  | map => "map"

end ValueType

def Json.type : Json → ValueType
  | null => .null
  | bool _ => .bool
  | number value => if value.isFloat then .double else .int
  | string _ => .string
  | list _ => .list
  | map _ => .map

namespace Expression

inductive TypeFault where
  | operand (op : UnaryOp) (found : ValueType)
  | condition (found : ValueType)
  | logicalOperand (op : BinaryOp) (found : ValueType)
  | elements (quantifier : Quantifier) (found : ValueType)
  | predicate (quantifier : Quantifier) (found : ValueType)
  | fieldSelection
  | argumentCount (function : String) (count : Nat)
  | receiver (method : String) (found : ValueType)
  | methodArgument (method : String) (found : ValueType)
  | missingMethodArgument (method : String)
  | field (name : String) (found : ValueType)
  | listIndex
  | subscript (target key : ValueType)
  | container (found : ValueType)
  | size (found : ValueType)
  | toInt (found : ValueType)
  | arithmetic (op : BinaryOp) (left right : ValueType)
  | comparison (left right : ValueType)

namespace TypeFault

def message : TypeFault → String
  | operand op found => "cannot apply " ++ op.name ++ " to " ++ found.name
  | condition found => "conditional expects bool, got " ++ found.name
  | logicalOperand op found => op.name ++ " expects bool operands, got " ++ found.name
  | elements quantifier found => quantifier.name ++ " expects a list or map, got " ++ found.name
  | predicate quantifier found =>
      quantifier.name ++ " predicate must return bool, got " ++ found.name
  | fieldSelection => "has() expects a single field selection"
  | argumentCount function count => function ++ "() expects 1 argument, got " ++ toString count
  | receiver method found => "no method " ++ method ++ " on " ++ found.name
  | methodArgument method found =>
      "string." ++ method ++ " expects string argument, got " ++ found.name
  | missingMethodArgument method => "string." ++ method ++ " expects an argument"
  | field name found => "cannot select field " ++ name ++ " on " ++ found.name
  | listIndex => "list index must be an integer"
  | subscript target key => "cannot index " ++ target.name ++ " with " ++ key.name
  | container found => "'in' expects a list or map, got " ++ found.name
  | size found => "size() not defined for " ++ found.name
  | toInt found => "int() not defined for " ++ found.name
  | arithmetic op left right =>
      op.name ++ " not defined for " ++ left.name ++ " and " ++ right.name
  | comparison left right => "cannot compare " ++ left.name ++ " with " ++ right.name

end TypeFault

inductive ValueFault where
  | indexOutOfRange (index : Int) (length : Nat)
  | notAnInteger (text : String) (fault : IntegerFault)
  | notADouble (value : Json)
  | negationOverflow
  | notNegatable (value : Number)
  | overflow (op : BinaryOp)
  | divisionByZero
  | modulusByZero
  | notFinite (op : BinaryOp)
  | incomparable

namespace ValueFault

def message : ValueFault → String
  | indexOutOfRange index length =>
      "index " ++ toString index ++ " out of range for list of " ++ toString length
  | notAnInteger text fault => "cannot convert " ++ Text.quoted text ++ " to int: " ++ fault.message
  | notADouble value => "cannot convert " ++ value.display ++ " to double"
  | negationOverflow => "integer overflow"
  | notNegatable value => "cannot negate " ++ value.render
  | overflow op => "integer overflow in " ++ op.name
  | divisionByZero => "division by zero"
  | modulusByZero => "modulus by zero"
  | notFinite op => op.name ++ " produced a non-finite result"
  | incomparable => "incomparable numbers"

end ValueFault

inductive Fault where
  | lex (offset : Nat) (fault : LexFault)
  | parse (offset : Nat) (fault : ParseFault)
  | undeclared (name : String)
  | unbound (name : String)
  | noSuchKey (key : String)
  | type (fault : TypeFault)
  | unknownFunction (name : String)
  | value (fault : ValueFault)
  | pattern

namespace Fault

def message : Fault → String
  | lex offset fault => "Lex error at offset " ++ toString offset ++ ": " ++ fault.message
  | parse offset fault => "Parse error at offset " ++ toString offset ++ ": " ++ fault.message
  | undeclared name => "Undeclared variable: " ++ name
  | unbound name => "Unbound variable: " ++ name
  | noSuchKey key => "No such key: " ++ key
  | type fault => "Type error: " ++ fault.message
  | unknownFunction name => "Unknown function: " ++ name
  | value fault => "Evaluation error: " ++ fault.message
  | pattern => "Invalid regex: <regex>"

end Fault

def lexemes (source : String) : Except Fault (List Lexeme) :=
  match tokenize source with
  | .ok found => .ok found
  | .error (offset, fault) => .error (.lex offset fault)

def parse (source : String) : Except Fault Expr := do
  let found ← lexemes source
  match parseLexemes found with
  | .ok expr => .ok expr
  | .error failure => .error (.parse (failure.offset source.utf8ByteSize) failure.fault)

end Expression

end LiterateTest
