import LiterateTest.Markdown.Line

/-! Tables: a line of headers, a line of hyphens with as many columns, and any number of rows.
Cells are divided by pipes; a pipe behind a backslash belongs to its cell. -/

namespace LiterateTest.Markdown

structure Table where
  headers : List (List Char)
  rows : List (List (List Char))
  deriving DecidableEq, Repr

namespace Table

/-! ## The line of hyphens -/

def isRuleChar (c : Char) : Bool := c == ' ' || c == ':' || c == '-'

/-- How many columns a line of hyphens has. Each column that a pipe ends has a hyphen. -/
def ruleColumns? (text : List Char) : Option Nat :=
  let inner := match text with
    | '|' :: rest => rest
    | rest => rest
  let columns := Text.splitChars ['|'] inner
  let closed := columns.dropLast
  let last := columns.getLastD []
  if text.contains '|' && text.contains '-' && columns.all (fun column => column.all isRuleChar)
      && closed.all (fun column => column.contains '-') then
    some (closed.length + if last.all (· == ' ') then 0 else 1)
  else none

example : ruleColumns? "|--|:-:|".toList = some 2 := by decide
example : ruleColumns? "- | -".toList = some 2 := by decide
example : ruleColumns? "---".toList = none := by decide

def indentedRuleColumns? (text : List Char) : Option Nat :=
  let (missing, cursor) := Cursor.dropColumns 4 0 text
  if missing = 0 then none else ruleColumns? cursor.rest

/-! ## The line of headers -/

structure Pipes where
  count : Nat
  afterLast : List Char

namespace Pipes

/-- Counts pipes; a backslash and the punctuation behind it make up one character. -/
def ofLine (found : Pipes) : List Char → Pipes
  | [] => found
  | '\\' :: c :: rest =>
      if Text.isAsciiPunctuation c then ofLine found rest else ofLine found (c :: rest)
  | c :: rest => ofLine (if c = '|' then ⟨found.count + 1, rest⟩ else found) rest

def ofSource (escaped : Bool) (found : Pipes) : List Char → Pipes
  | [] => found
  | c :: rest =>
      ofSource (c = '\\') (if c = '|' ∧ !escaped then ⟨found.count + 1, rest⟩ else found) rest

def columns? (pipes : Pipes) (line : List Char) : Option Nat :=
  if pipes.count = 0 then none
  else
    let start := (line.dropWhile isLineBlank).head? == some '|'
    let inner := if start then pipes.count - 1 else pipes.count
    some (if isBlankLine pipes.afterLast then inner else inner + 1)

end Pipes

def columns? (pipes : Pipes) (line : List Char) (rule : List Char) : Option Nat :=
  match pipes.columns? line, indentedRuleColumns? rule with
  | some columns, some ruled => if columns = ruled ∧ 0 < columns then some columns else none
  | _, _ => none

/-! ## Cells -/

def splitCell : (escaped : Bool) → List Char → List Char × List Char
  | _, [] => ([], [])
  | escaped, c :: rest =>
      if c = '|' ∧ !escaped then ([], c :: rest)
      else
        let (cell, after) := splitCell (c = '\\') rest
        (c :: cell, after)

def cellText : List Char → List Char
  | '\\' :: '|' :: rest => '|' :: cellText rest
  | c :: rest => c :: cellText rest
  | [] => []

def dropPipe : List Char → List Char
  | '|' :: rest => rest
  | text => text

/-- The cells of a line. `budget` bounds their number; each cell but the first has a pipe. -/
def cellsWithin : (budget : Nat) → List Char → List (List Char)
  | 0, _ => []
  | budget + 1, text =>
      let start := (dropPipe text).dropWhile isLineBlank
      if start.isEmpty then []
      else
        let (cell, after) := splitCell false start
        cellText (dropLineBlankEnd cell) :: cellsWithin budget after

def cells (text : List Char) : List (List Char) :=
  cellsWithin (text.length + 1) text

example : cells "| a | b\\|c |".toList = [['a'], ['b', '|', 'c']] := by decide
example : cells "a||b".toList = [['a'], [], ['b']] := by decide

def fit (columns : Nat) (row : List (List Char)) : List (List Char) :=
  row.take columns ++ List.replicate (columns - row.length) []

end Table

end LiterateTest.Markdown
