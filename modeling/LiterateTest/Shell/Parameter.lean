import LiterateTest.Shell.Field
import LiterateTest.Shell.Token

/-! Operations on the values of variables, as they stand between braces. -/

namespace LiterateTest.Shell.Parameter

def pattern (text : String) : List GlobToken := Field.pattern 0 (Fragment.mark true text)

def dropStart (longest : Bool) (tokens : List GlobToken) (text : List Char) : List Char :=
  let counts := (List.range (text.length + 1)).filter fun count =>
    Glob.isMatch tokens (text.take count)
  match (if longest then counts.getLast? else counts.head?) with
  | some count => text.drop count
  | none => text

def dropEnd (longest : Bool) (tokens : List GlobToken) (text : List Char) : List Char :=
  let counts := (List.range (text.length + 1)).filter fun count =>
    Glob.isMatch tokens (text.drop count)
  match (if longest then counts.head? else counts.getLast?) with
  | some count => text.take count
  | none => text

def replaceFirst (text target replacement : String) : String :=
  match Text.split text target with
  | first :: second :: rest =>
      first ++ replacement ++ Text.joinWith target (second :: rest)
  | _ => text

def modify (sign : String) (operand value : String) : String :=
  let chars := value.toList
  match sign with
  | "##" => String.ofList (dropStart true (pattern operand) chars)
  | "#" => String.ofList (dropStart false (pattern operand) chars)
  | "%%" => String.ofList (dropEnd true (pattern operand) chars)
  | "%" => String.ofList (dropEnd false (pattern operand) chars)
  | "^^" => Text.upperAscii value
  | ",," => Text.lowerAscii value
  | "//" =>
      match Text.splitAtFirst? '/' operand.toList with
      | some (target, replacement) =>
          Text.replace value (String.ofList target) (String.ofList replacement)
      | none => Text.replace value operand ""
  | "/" =>
      match Text.splitAtFirst? '/' operand.toList with
      | some (target, replacement) =>
          replaceFirst value (String.ofList target) (String.ofList replacement)
      | none => replaceFirst value operand ""
  | _ => value

/-- The signs of operations; a longer one comes before its beginnings. -/
def signs : List String :=
  [":-", ":=", ":+", ":?", "-", "=", "+", "?", "##", "#", "%%", "%", "^^", ",,", "//", "/"]

def splitSign (operation : String) : String × String :=
  match Token.leadOf? operation.toList signs with
  | some (sign, rest) => (sign, String.ofList rest)
  | none => ("", operation)

end LiterateTest.Shell.Parameter
