import LiterateTest.Markdown.Line
import LiterateTest.Text.CaseFolding

/-! The parts of links: labels, destinations and titles, and definitions of labels. Only where
the parts end matters here, since the text of a link is all that a reader sees of it. -/

namespace LiterateTest.Markdown

/-! ## Labels -/

/-- A label as references are compared: words between single spaces, without letter case. -/
abbrev Label := List Char

namespace Label

def split? : List Char → Option (List Char × List Char)
  | [] => none
  | ']' :: rest => some ([], rest)
  | '[' :: _ => none
  | '\\' :: c :: rest => (split? rest).map fun (inside, after) => ('\\' :: c :: inside, after)
  | c :: rest => (split? rest).map fun (inside, after) => (c :: inside, after)

def foldChar (c : Char) : Char := Char.ofNat (Text.foldCase c.toNat)

def wordsFrom : (current : List Char) → List Char → List (List Char)
  | current, [] => if current.isEmpty then [] else [current.reverse]
  | current, c :: rest =>
      if isSpaceOrBreak c then
        if current.isEmpty then wordsFrom [] rest else current.reverse :: wordsFrom [] rest
      else wordsFrom (c :: current) rest

def ofChars (inside : List Char) : Label :=
  (((wordsFrom [] inside).intersperse [' ']).flatten).map foldChar

def maximumLength : Nat := 999

def read? (text : List Char) : Option (Label × List Char) :=
  match split? text with
  | none => none
  | some (inside, after) =>
      if inside.all isSpaceOrBreak || maximumLength < inside.length then none
      else some (ofChars inside, after)

example : read? "A \n b]c".toList = some ("a b".toList, ['c']) := by decide

end Label

/-! ## Destinations and titles -/

namespace Link

def maximumDepth : Nat := 5

def afterBracketed? : List Char → Option (List Char)
  | [] => none
  | '>' :: rest => some rest
  | '<' :: _ => none
  | '\n' :: _ => none
  | '\\' :: c :: rest =>
      if Text.isAsciiPunctuation c then afterBracketed? rest else afterBracketed? (c :: rest)
  | _ :: rest => afterBracketed? rest

/-- What follows a destination without brackets, which ends at a blank or at a parenthesis that
it has not opened. -/
def afterPlain? : (depth : Nat) → List Char → Option (List Char)
  | depth, [] => if depth = 0 then some [] else none
  | depth, '\\' :: c :: rest =>
      if Text.isAsciiPunctuation c then afterPlain? depth rest else afterPlain? depth (c :: rest)
  | depth, c :: rest =>
      if c ≤ ' ' then if depth = 0 then some (c :: rest) else none
      else if c = '(' then
        if maximumDepth < depth then none else afterPlain? (depth + 1) rest
      else if c = ')' then
        if depth = 0 then some (c :: rest) else afterPlain? (depth - 1) rest
      else afterPlain? depth rest

def afterDestination? : List Char → Option (List Char)
  | '<' :: rest => afterBracketed? rest
  | text => afterPlain? 0 text

def afterTitleText? (isOpen : Char → Bool) (close : Char) : List Char → Option (List Char)
  | [] => none
  | '\\' :: c :: rest =>
      if Text.isAsciiPunctuation c then afterTitleText? isOpen close rest
      else afterTitleText? isOpen close (c :: rest)
  | c :: rest =>
      if c = close then some rest
      else if isOpen c then none
      else afterTitleText? isOpen close rest

def afterTitle? : List Char → Option (List Char)
  | '"' :: rest => afterTitleText? (fun _ => false) '"' rest
  | '\'' :: rest => afterTitleText? (fun _ => false) '\'' rest
  | '(' :: rest => afterTitleText? (· == '(') ')' rest
  | _ => none

def dropSeparator (text : List Char) : List Char :=
  match text.dropWhile isLineBlank with
  | '\n' :: rest => rest.dropWhile isLineBlank
  | rest => rest

def afterTarget? : List Char → Option (List Char)
  | '(' :: text =>
      match afterDestination? (dropSeparator text) with
      | none => none
      | some afterDestination =>
          let rest := dropSeparator afterDestination
          let rest :=
            match afterTitle? rest with
            | some afterTitle => dropSeparator afterTitle
            | none => rest
          match rest with
          | ')' :: after => some after
          | _ => none
  | _ => none

example : afterTarget? "(u 'T')x".toList = some ['x'] := by decide
example : afterTarget? "(a b)".toList = none := by decide

end Link

/-! ## Definitions -/

structure Definition where
  label : Label
  after : List Char
  deriving DecidableEq, Repr

namespace Definition

def lineEnd? (text : List Char) : Option (List Char) :=
  match text.dropWhile isLineBlank with
  | [] => some []
  | '\n' :: rest => some ('\n' :: rest)
  | _ => none

def afterFullTitle? (text : List Char) : Option (List Char) :=
  (Link.afterTitle? text).bind lineEnd?

/-- What follows a destination: nothing more on its line and maybe a title on the next one, or
a title behind blanks. -/
def afterDestination? (text : List Char) : Option (List Char) :=
  match lineEnd? text with
  | some [] => some []
  | some ('\n' :: rest) =>
      some ((afterFullTitle? (rest.dropWhile isLineBlank)).getD ('\n' :: rest))
  | _ =>
      if (text.head?.map isLineBlank).getD false then
        afterFullTitle? (text.dropWhile isLineBlank)
      else none

def read? : List Char → Option Definition
  | '[' :: text =>
      match Label.read? text with
      | some (label, ':' :: rest) =>
          let start := Link.dropSeparator rest
          match Link.afterDestination? start with
          | some afterDestination =>
              if afterDestination.length = start.length then none
              else (afterDestination? afterDestination).map fun after => ⟨label, after⟩
          | none => none
      | _ => none
  | _ => none

example : read? "[a]: u 'T'\nb".toList = some ⟨['a'], "\nb".toList⟩ := by decide
example : read? "[a]: u 'T' b".toList = none := by decide

end Definition

end LiterateTest.Markdown
