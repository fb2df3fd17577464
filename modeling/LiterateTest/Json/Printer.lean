import LiterateTest.Json.Basic

/-! The compact text of a JSON value: no blanks, and escapes only where JSON needs them. -/

namespace LiterateTest.Json

def controlEscape (c : Char) : List Char :=
  let digits := Nat.toDigits 16 c.toNat
  '\\' :: 'u' :: List.replicate (4 - digits.length) '0' ++ digits

def escapeChar (c : Char) : List Char :=
  match c with
  | '"' => ['\\', '"']
  | '\\' => ['\\', '\\']
  | '\x08' => ['\\', 'b']
  | '\x0c' => ['\\', 'f']
  | '\n' => ['\\', 'n']
  | '\r' => ['\\', 'r']
  | '\t' => ['\\', 't']
  | c => if c.toNat < 32 then controlEscape c else [c]

def stringChars (text : String) : List Char :=
  '"' :: text.toList.flatMap escapeChar ++ ['"']

mutual
def renderChars : Json → List Char
  | null => "null".toList
  | bool true => "true".toList
  | bool false => "false".toList
  | number value => value.render.toList
  | string text => stringChars text
  | list items => '[' :: renderItems items ++ [']']
  | map entries => '\x7b' :: renderEntries entries ++ ['\x7d']

def renderItems : List Json → List Char
  | [] => []
  | [item] => renderChars item
  | item :: rest => renderChars item ++ ',' :: renderItems rest

def renderEntries : List (String × Json) → List Char
  | [] => []
  | [(key, value)] => stringChars key ++ ':' :: renderChars value
  | (key, value) :: rest =>
      stringChars key ++ ':' :: renderChars value ++ ',' :: renderEntries rest
end

def render (value : Json) : String :=
  String.ofList (renderChars value)

def display : Json → String
  | string text => text
  | value => render value

end LiterateTest.Json
