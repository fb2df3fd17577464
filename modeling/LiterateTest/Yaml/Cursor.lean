import LiterateTest.Text.Basic

/-! A place in a YAML text, and the classes of characters that YAML distinguishes. -/

namespace LiterateTest.Yaml

structure Cursor where
  rest : List Char
  index : Nat := 0
  line : Nat := 0
  column : Nat := 0

def isBreak (c : Char) : Bool :=
  c == '\n' || c == '\r' || c == '\u0085' || c == '\u2028' || c == '\u2029'

def isBlank (c : Char) : Bool := c == ' ' || c == '\t'

def atBlankOrEnd : List Char → Bool
  | [] => true
  | c :: _ => isBlank c || isBreak c

def atBreakOrEnd : List Char → Bool
  | [] => true
  | c :: _ => isBreak c

def isNameChar (c : Char) : Bool := c.isAlphanum || c == '_' || c == '-'

def isAllowed (c : Char) : Bool :=
  let code := c.toNat
  code == 0x09 || code == 0x0A || code == 0x0D || (0x20 ≤ code && code ≤ 0x7E) || code == 0x85
    || (0xA0 ≤ code && code ≤ 0xD7FF) || (0xE000 ≤ code && code ≤ 0xFFFD && code != 0xFEFF)
    || 0x10000 ≤ code

namespace Cursor

def ofText (text : String) : Cursor :=
  match text.toList with
  | '\ufeff' :: rest => { rest }
  | rest => { rest }

def skip (cursor : Cursor) : Cursor :=
  { cursor with
    rest := cursor.rest.drop 1, index := cursor.index + 1, column := cursor.column + 1 }

def skipMany (cursor : Cursor) (count : Nat) : Cursor :=
  { cursor with
    rest := cursor.rest.drop count, index := cursor.index + count
    column := cursor.column + count }

def skipBreak (cursor : Cursor) : Cursor :=
  match cursor.rest with
  | '\r' :: '\n' :: rest => ⟨rest, cursor.index + 2, cursor.line + 1, 0⟩
  | c :: rest =>
      if isBreak c then ⟨rest, cursor.index + 1, cursor.line + 1, 0⟩ else cursor
  | [] => cursor

/-- The text of the line break at the cursor: a line feed, unless it is one of the separators
that are kept as they are. -/
def breakText (cursor : Cursor) : List Char :=
  match cursor.rest with
  | [] => []
  | c :: _ =>
      if c == '\u2028' || c == '\u2029' then [c] else if isBreak c then ['\n'] else []

def skipWhile (holds : Char → Bool) (cursor : Cursor) : Cursor :=
  cursor.skipMany (cursor.rest.takeWhile holds).length

def atMarker (cursor : Cursor) (mark : Char) : Bool :=
  cursor.column == 0 && cursor.rest.take 3 == [mark, mark, mark]
    && atBlankOrEnd (cursor.rest.drop 3)

def atDocumentMarker (cursor : Cursor) : Bool := cursor.atMarker '-' || cursor.atMarker '.'

end Cursor

end LiterateTest.Yaml
