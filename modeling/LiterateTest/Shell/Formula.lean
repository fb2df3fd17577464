import LiterateTest.Text.Basic

/-! Formulas with whole numbers, as they stand in `$((…))`. -/

namespace LiterateTest.Shell.Formula

/-- Operators of two numbers, with how closely they bind. Of two operators with which a text
begins, the longer one comes first. -/
def operators : List (String × Nat) :=
  [("||", 1), ("&&", 2), ("==", 4), ("!=", 4), ("<=", 5), (">=", 5), ("<", 5), (">", 5),
    ("+", 7), ("-", 7), ("*", 8), ("/", 8), ("%", 8)]

def truth (holds : Bool) : Int := if holds then 1 else 0

def result? (operator : String) (left right : Int) : Option Int :=
  match operator with
  | "||" => some (truth (left != 0 || right != 0))
  | "&&" => some (truth (left != 0 && right != 0))
  | "==" => some (truth (left == right))
  | "!=" => some (truth (left != right))
  | "<=" => some (truth (left ≤ right))
  | ">=" => some (truth (left ≥ right))
  | "<" => some (truth (left < right))
  | ">" => some (truth (left > right))
  | "+" => some (left + right)
  | "-" => some (left - right)
  | "*" => some (left * right)
  | "/" => if right = 0 then none else some (left.tdiv right)
  | _ => if right = 0 then none else some (left.tmod right)

def nextOperator? (text : List Char) : Option (String × Nat × List Char) :=
  operators.findSome? fun (name, strength) =>
    (Text.stripLead? name.toList text).map fun rest => (name, strength, rest)

def skip (text : List Char) : List Char := text.dropWhile Char.isWhitespace

mutual
def operand? (valueOf : String → Int) : (budget : Nat) → List Char → Option (Int × List Char)
  | 0, _ => none
  | budget + 1, text =>
      match skip text with
      | '(' :: rest => do
          let (value, after) ← from? valueOf budget 0 rest
          match skip after with
          | ')' :: after => some (value, after)
          | _ => none
      | '-' :: rest => (operand? valueOf budget rest).map fun (value, after) => (-value, after)
      | '+' :: rest => operand? valueOf budget rest
      | '!' :: rest =>
          (operand? valueOf budget rest).map fun (value, after) => (truth (value == 0), after)
      | c :: rest =>
          if c.isDigit then
            let digits := c :: rest.takeWhile Char.isDigit
            some (((String.ofList digits).toNat?.getD 0 : Nat), rest.dropWhile Char.isDigit)
          else if Text.isWordStart c then
            let name := String.ofList (c :: rest.takeWhile Text.isWordRest)
            some (valueOf name, rest.dropWhile Text.isWordRest)
          else none
      | [] => none

/-- Reads operands as far as their operators bind more closely than `strength`. -/
def from? (valueOf : String → Int) :
    (budget strength : Nat) → List Char → Option (Int × List Char)
  | 0, _, _ => none
  | budget + 1, strength, text => do
      let (left, rest) ← operand? valueOf budget text
      continue? valueOf budget strength left rest

def continue? (valueOf : String → Int) :
    (budget strength : Nat) → (left : Int) → List Char → Option (Int × List Char)
  | 0, _, _, _ => none
  | budget + 1, strength, left, text =>
      match nextOperator? (skip text) with
      | none => some (left, text)
      | some (name, found, rest) =>
          if found ≤ strength then some (left, text)
          else do
            let (right, after) ← from? valueOf budget found rest
            let value ← result? name left right
            continue? valueOf budget strength value after
end

def value? (valueOf : String → Int) (text : String) : Option Int :=
  let chars := skip text.toList
  if chars.isEmpty then some 0
  else
    match from? valueOf (4 * chars.length + 4) 0 chars with
    | some (value, rest) => if (skip rest).isEmpty then some value else none
    | none => none

end LiterateTest.Shell.Formula
