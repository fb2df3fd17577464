import LiterateTest.Expression.Operators
import LiterateTest.Pattern.Reader

/-! The functions and methods of the expression language. -/

namespace LiterateTest.Expression

/-! ## Conversions -/

def size : Json → Except Fault Json
  | .string text => .ok (Json.ofNat text.length)
  | .list items => .ok (Json.ofNat items.length)
  | .map entries => .ok (Json.ofNat entries.length)
  | other => .error (.type (.size other.type))

def ofInteger (value : Int) : Json :=
  match Number.ofInt? value with
  | some number => .number number
  | none => .null

def toInt : Json → Except Fault Json
  | .number value =>
      match value.signed? with
      | some integer => .ok (ofInteger integer)
      | none => .ok (ofInteger (Double.truncateToInt64 value.toFloat))
  | .string text =>
      match Integer.readSigned (Text.trimChars text.toList) with
      | .ok value => .ok (ofInteger value)
      | .error fault => .error (.value (.notAnInteger text fault))
  | .bool value => .ok (.number (if value then .one else .zero))
  | other => .error (.type (.toInt other.type))

def toDouble (value : Json) : Except Fault Json :=
  let converted : Option Float :=
    match value with
    | .number number => some number.toFloat
    | .string text => Double.read? (Text.trimChars text.toList)
    | _ => none
  match converted.bind Number.ofFloat? with
  | some number => .ok (.number number)
  | none => .error (.value (.notADouble value))

def callFunction (function : String) (arguments : List Json) : Except Fault Json :=
  match arguments with
  | [value] =>
      match function with
      | "size" => size value
      | "int" => toInt value
      | "double" => toDouble value
      | "string" => .ok (.string value.display)
      | "type" => .ok (.string value.type.name)
      | _ => .error (.unknownFunction function)
  | arguments => .error (.type (.argumentCount function arguments.length))

def hasField (name : String) : Json → Bool
  | .map entries => Record.hasKey entries name
  | _ => false

/-! ## Methods -/

def stringArgument (method : String) : List Json → Except Fault String
  | [] => .error (.type (.missingMethodArgument method))
  | .string text :: _ => .ok text
  | other :: _ => .error (.type (.methodArgument method other.type))

def matchesPattern (text patternText : String) : Except Fault Json :=
  match Pattern.read? patternText with
  | some pattern => .ok (.bool (pattern.occursIn text))
  | none => .error .pattern

def stringMethod (text method : String) (arguments : List Json) : Except Fault Json :=
  match method with
  | "contains" => do
      let needle ← stringArgument method arguments
      .ok (.bool (Text.contains text needle))
  | "startsWith" => do
      let lead ← stringArgument method arguments
      .ok (.bool (Text.startsWith text lead))
  | "endsWith" => do
      let tail ← stringArgument method arguments
      .ok (.bool (Text.endsWith text tail))
  | "matches" => do
      let patternText ← stringArgument method arguments
      matchesPattern text patternText
  | "trim" => .ok (.string (Text.trim text))
  | "lowerAscii" => .ok (.string (Text.lowerAscii text))
  | "upperAscii" => .ok (.string (Text.upperAscii text))
  | "split" => do
      let separator ← stringArgument method arguments
      .ok (.list ((Text.split text separator).map Json.string))
  | _ => .error (.unknownFunction ("string." ++ method))

def listMethod (items : List Json) (method : String) (arguments : List Json) :
    Except Fault Json :=
  match method, arguments with
  | "contains", [needle] => .ok (.bool (items.any fun item => valuesEqual item needle))
  | _, _ => .error (.unknownFunction ("list." ++ method))

def callMethod (receiver : Json) (method : String) (arguments : List Json) : Except Fault Json :=
  if method = "size" ∧ arguments.isEmpty then size receiver
  else
    match receiver with
    | .string text => stringMethod text method arguments
    | .list items => listMethod items method arguments
    | other => .error (.type (.receiver method other.type))

end LiterateTest.Expression
