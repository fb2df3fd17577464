import LiterateTest.Text.Category

/-! Text between double quotes, as diagnostics show it: characters that would not be seen are
written as escapes. -/

namespace LiterateTest.Text

def lowerHex (value : Nat) : List Char := Nat.toDigits 16 value

def codePointEscape (c : Char) : List Char :=
  ['\\', 'u', '\x7b'] ++ lowerHex c.toNat ++ ['\x7d']

def quoteChar (c : Char) : List Char :=
  match c with
  | '\x00' => ['\\', '0']
  | '\t' => ['\\', 't']
  | '\r' => ['\\', 'r']
  | '\n' => ['\\', 'n']
  | '\\' => ['\\', '\\']
  | '"' => ['\\', '"']
  | c => if extendsPrevious c || !isPrintable c then codePointEscape c else [c]

def quoteChars (text : List Char) : List Char :=
  '"' :: text.flatMap quoteChar ++ ['"']

def quoted (text : String) : String :=
  String.ofList (quoteChars text.toList)

def quotedPath (path : String) : String :=
  let quote := fun c => if c = '\'' then ['\\', '\''] else quoteChar c
  String.ofList ('"' :: path.toList.flatMap quote ++ ['"'])

end LiterateTest.Text
