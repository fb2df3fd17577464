import LiterateTest.Text.Basic

/-! Lines of a Markdown text, and the blanks that lines begin with.

Blanks at the start of a line are counted in columns. A tab reaches to the next column that is a
multiple of four, and can be used up in part. -/

namespace LiterateTest.Markdown

/-! ## Lines -/

structure Line where
  text : List Char
  /-- A line feed, a carriage return, or both; nothing at the end of the text. -/
  ending : List Char
  deriving DecidableEq, Repr

namespace Line

def ofChars : List Char → List Line
  | [] => []
  | '\n' :: rest => ⟨[], ['\n']⟩ :: ofChars rest
  | '\r' :: '\n' :: rest => ⟨[], ['\r', '\n']⟩ :: ofChars rest
  | '\r' :: rest => ⟨[], ['\r']⟩ :: ofChars rest
  | c :: rest =>
      match ofChars rest with
      | [] => [⟨[c], []⟩]
      | line :: lines => ⟨c :: line.text, line.ending⟩ :: lines

example : ofChars ['a', '\r', '\n', 'b'] = [⟨['a'], ['\r', '\n']⟩, ⟨['b'], []⟩] := by rfl

end Line

def isLineBlank (c : Char) : Bool :=
  c == ' ' || c == '\t' || c == '\x0b' || c == '\x0c'

def isSpaceOrBreak (c : Char) : Bool :=
  isLineBlank c || c == '\n' || c == '\r'

def isBlankLine (text : List Char) : Bool :=
  text.all isLineBlank

def dropLineBlankEnd (text : List Char) : List Char :=
  (text.reverse.dropWhile isLineBlank).reverse

def runLength (c : Char) (text : List Char) : Nat :=
  (text.takeWhile (· == c)).length

/-! ## Columns -/

structure Cursor where
  rest : List Char
  /-- How many columns are behind, from the last tab on. -/
  column : Nat := 0
  /-- How many columns of the last tab are not used up. -/
  pending : Nat := 0
  deriving DecidableEq, Repr

namespace Cursor

def ofLine (line : Line) : Cursor := { rest := line.text }

def atEnd (cursor : Cursor) : Bool := cursor.rest.isEmpty

def isBlank (cursor : Cursor) : Bool := isBlankLine cursor.rest

/-- Goes on by up to `count` columns of blanks, and gives the number of columns that are
missing. -/
def dropColumns : (count column : Nat) → List Char → Nat × Cursor
  | count, column, ' ' :: rest =>
      if count = 0 then (0, { rest := ' ' :: rest, column })
      else dropColumns (count - 1) (column + 1) rest
  | count, column, '\t' :: rest =>
      if count = 0 then (0, { rest := '\t' :: rest, column })
      else
        let width := 4 - column % 4
        if width ≤ count then dropColumns (count - width) 0 rest
        else (0, { rest, column := 0, pending := width - count })
  | count, column, rest => (count, { rest, column })

def dropUpTo (count : Nat) (cursor : Cursor) : Nat × Cursor :=
  if count ≤ cursor.pending then (0, { cursor with pending := cursor.pending - count })
  else dropColumns (count - cursor.pending) cursor.column cursor.rest

def advance (count : Nat) (cursor : Cursor) : Cursor :=
  { cursor with rest := cursor.rest.drop count, column := cursor.column + count }

def dropAll (cursor : Cursor) : Cursor :=
  { rest := cursor.rest.dropWhile fun c => c == ' ' || c == '\t' }

def remainder (cursor : Cursor) : List Char :=
  List.replicate cursor.pending ' ' ++ cursor.rest

example : (ofLine ⟨['\t', 'a'], []⟩).dropUpTo 2
    = (0, { rest := ['a'], column := 0, pending := 2 }) := by decide

end Cursor

end LiterateTest.Markdown
