import LiterateTest.Shell.Format

/-! Programs that say whether a condition holds. -/

namespace LiterateTest.Shell.Tool

inductive ConditionFault where
  | tooMany
  | unaryExpected (word : String)
  | binaryExpected (word : String)
  | notInteger (word : String)
  deriving DecidableEq, Repr

namespace ConditionFault

def message : ConditionFault → String
  | tooMany => "too many arguments"
  | unaryExpected word => word ++ ": unary operator expected"
  | binaryExpected word => word ++ ": binary operator expected"
  | notInteger word => word ++ ": integer expression expected"

end ConditionFault

abbrev Judgement := Except ConditionFault Bool

def comparison? (operator : String) : Option (Int → Int → Bool) :=
  match operator with
  | "-eq" => some fun left right => left == right
  | "-ne" => some fun left right => left != right
  | "-lt" => some fun left right => left < right
  | "-le" => some fun left right => left ≤ right
  | "-gt" => some fun left right => left > right
  | "-ge" => some fun left right => left ≥ right
  | _ => none

def readInteger (text : String) : Except ConditionFault Int :=
  ((Text.trim text).toInt?).elim (.error (.notInteger text)) .ok

def holdsOf (files : FileTree) (operator text : String) : Judgement :=
  match operator with
  | "!" => .ok (text == "")
  | "-n" => .ok (text != "")
  | "-z" => .ok (text == "")
  | "-e" | "-r" | "-w" => .ok (files.exists? text)
  | "-f" => .ok (files.isFile text)
  | "-d" | "-x" => .ok (files.isDirectory text)
  | "-s" =>
      .ok (((files.readBytes? text).map fun bytes => !bytes.isEmpty).getD
        (files.isDirectory text))
  | _ => .error (.unaryExpected operator)

def holdsBetween (operator left right : String) : Judgement :=
  match operator with
  | "=" | "==" => .ok (left == right)
  | "!=" => .ok (left != right)
  | _ =>
      match comparison? operator with
      | some compare => do
          let left ← readInteger left
          let right ← readInteger right
          return compare left right
      | none => .error (.binaryExpected operator)

def simpleHolds (files : FileTree) : List String → Judgement
  | [] => .ok false
  | [text] => .ok (text != "")
  | [operator, text] => holdsOf files operator text
  | "!" :: rest => (simpleHolds files rest).map not
  | [left, operator, right] => holdsBetween operator left right
  | _ => .error .tooMany

def splitWords (connective : String) : List String → List (List String)
  | [] => [[]]
  | word :: rest =>
      match splitWords connective rest with
      | group :: groups =>
          if word = connective then [] :: group :: groups else (word :: group) :: groups
      | [] => [[word]]

def holds (files : FileTree) (words : List String) : Judgement :=
  if words.length ≤ 3 then simpleHolds files words
  else do
    let groups ← (splitWords "-o" words).mapM fun group => do
      let parts ← (splitWords "-a" group).mapM (simpleHolds files)
      return parts.all id
    return groups.any id

def test : Program := fun call =>
  let words := if call.program = "[" then call.arguments.dropLast else call.arguments
  if call.program = "[" && call.arguments.getLast? != some "]" then
    call.complain "missing \x60]'" 2
  else
    match holds call.files words with
    | .ok true => call.ending 0
    | .ok false => call.ending 1
    | .error fault => call.complain fault.message 2

end LiterateTest.Shell.Tool
