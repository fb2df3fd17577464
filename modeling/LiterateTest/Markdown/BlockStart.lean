import LiterateTest.Markdown.Line

/-! How the lines look that begin a block of their own. Each function is given a line without
the marks of the blocks around it and without the blanks before its first character. -/

namespace LiterateTest.Markdown

/-! ## Thematic breaks and headings -/

def isThematicBreak (text : List Char) : Bool :=
  match text with
  | c :: _ =>
      (c == '*' || c == '-' || c == '_')
        && text.all (fun d => d == c || d == ' ' || d == '\t') && 3 ≤ text.count c
  | [] => false

example : isThematicBreak "- - -".toList = true := by decide
example : isThematicBreak "--".toList = false := by decide

def headingLevel? (text : List Char) : Option Nat :=
  let level := runLength '#' text
  if 1 ≤ level && level ≤ 6 && ((text.drop level).head?.map isSpaceOrBreak).getD true then
    some level
  else none

/-- Drops the number signs that close a heading. They count only behind a space, or where
nothing else is in the heading. -/
def dropHeadingEnd (text : List Char) : List Char :=
  let marked := text.reverse.dropWhile (· == ' ')
  match marked.dropWhile (· == '#') with
  | [] => []
  | ' ' :: before => (before.dropWhile (· == ' ')).reverse
  | _ => marked.reverse

def headingText (level : Nat) (text : List Char) : List Char :=
  let content := (text.drop level).dropWhile isLineBlank
  let blanks := (content.reverse.takeWhile isLineBlank).length
  dropHeadingEnd (if 2 ≤ blanks then dropLineBlankEnd content else content)

example : headingText 1 "# a #".toList = ['a'] := by decide
example : headingText 1 "# a#".toList = ['a', '#'] := by decide

def underlineLevel? (text : List Char) : Option Nat :=
  match text with
  | '=' :: rest => if isBlankLine (rest.dropWhile (· == '=')) then some 1 else none
  | '-' :: rest => if isBlankLine (rest.dropWhile (· == '-')) then some 2 else none
  | _ => none

/-! ## Code fences -/

structure Fence where
  mark : Char
  width : Nat
  deriving DecidableEq, Repr

namespace Fence

/-- Three or more backticks or tildes. No further backtick may follow the backticks. -/
def ofLine? (text : List Char) : Option Fence :=
  match text with
  | '\x60' :: _ =>
      let width := runLength '\x60' text
      if 3 ≤ width && !(text.drop width).contains '\x60' then some ⟨'\x60', width⟩ else none
  | '~' :: _ =>
      let width := runLength '~' text
      if 3 ≤ width then some ⟨'~', width⟩ else none
  | _ => none

def isClosedBy (fence : Fence) (text : List Char) : Bool :=
  fence.width ≤ runLength fence.mark text
    && (text.dropWhile (· == fence.mark)).all (· == ' ')

def info (fence : Fence) (text : List Char) : List Char :=
  dropLineBlankEnd ((text.drop fence.width).dropWhile isLineBlank)

end Fence

/-! ## List items -/

structure ListMarker where
  /-- The character that all items of a list share: a bullet, or what follows a number. -/
  kind : Char
  number : Nat
  /-- How many characters the mark takes. -/
  width : Nat
  deriving DecidableEq, Repr

namespace ListMarker

def isBullet (c : Char) : Bool := c == '-' || c == '+' || c == '*'

def ofLine? (text : List Char) : Option ListMarker :=
  match text with
  | [] => none
  | c :: _ =>
      if isBullet c then some ⟨c, 0, 1⟩
      else
        let digits := (text.take 9).takeWhile Char.isDigit
        if digits.isEmpty then none
        else
          match text.drop digits.length with
          | mark :: _ =>
              if mark == '.' || mark == ')' then
                some ⟨mark, Nat.ofDigitChars 10 digits 0, digits.length + 1⟩
              else none
          | [] => none

example : ofLine? "12. x".toList = some ⟨'.', 12, 3⟩ := by decide

/-- Whether a list may begin here in the middle of a paragraph: not with an item that is empty
and followed by a blank line, and not with a number other than one. -/
def interruptsParagraph (text : List Char) (next : Option Line) : Bool :=
  match ofLine? text with
  | none => false
  | some marker =>
      let rest := text.drop marker.width
      (rest.isEmpty || rest.head? == some ' ' || rest.head? == some '\t')
        && (isBullet marker.kind || marker.number == 1)
        && !(isBlankLine rest && ((next.map fun line => isBlankLine line.text).getD true))

def begins (text : List Char) : Bool :=
  match ofLine? text with
  | none => false
  | some marker =>
      let rest := text.drop marker.width
      rest.isEmpty || rest.head? == some ' ' || rest.head? == some '\t'

end ListMarker

end LiterateTest.Markdown
