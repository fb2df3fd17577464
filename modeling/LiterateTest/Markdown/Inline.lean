import LiterateTest.Markdown.CharacterReference
import LiterateTest.Markdown.Html
import LiterateTest.Markdown.Link
import LiterateTest.Text.Category

/-! The content of paragraphs, headings and table cells, without the marks of emphasis and links
and without markup. -/

namespace LiterateTest.Markdown

inductive Inline where
  | text (chars : List Char)
  | code (chars : List Char)
  | lineBreak
  deriving DecidableEq, Repr

namespace Inline

/-! ## Emphasis

A run of asterisks, underscores or tildes opens emphasis, closes it, or does both, by the
characters around it. Each mark of a closing run takes away one of an opening run; the marks that
remain in the end are text. -/

structure Run where
  mark : Char
  /-- How many marks the run had at first. -/
  length : Nat
  /-- How many marks are left. -/
  left : Nat
  opens : Bool
  closes : Bool
  deriving DecidableEq, Repr

namespace Run

def isPunctuation (c : Char) : Bool :=
  Text.isAsciiPunctuation c
    || (127 < c.toNat && ((Text.category c).isPunctuation || (Text.category c).isSymbol))

def isBlankOrEdge (c : Option Char) : Bool := (c.map Text.isBlank).getD true

def isPunctuationAt (c : Option Char) : Bool := (c.map isPunctuation).getD false

def actsInsideWords (mark : Char) (length : Nat) : Bool :=
  mark == '*' || (mark == '~' && 1 < length)

def mayOpen (mark : Char) (length : Nat) (before after : Option Char) : Bool :=
  !isBlankOrEdge after
    && ((mark == '*' && !isPunctuationAt after) || (mark == '~' && 1 < length)
      || isBlankOrEdge before || isPunctuationAt before)

def mayClose (mark : Char) (length : Nat) (before after : Option Char) : Bool :=
  !isBlankOrEdge before
    && (isBlankOrEdge after || (actsInsideWords mark length && !isPunctuationAt before)
      || isPunctuationAt after)

def ofSource? (before : Option Char) (mark : Char) (rest : List Char) : Option Run :=
  let length := runLength mark rest + 1
  let after := (rest.drop (length - 1)).head?
  let opens := mayOpen mark length before after
  let closes := mayClose mark length before after
  if (opens || closes) && !(mark == '~' && 2 < length) then
    some ⟨mark, length, length, opens, closes⟩
  else none

/-- Whether a closing run matches an opening one. Where one of them could do both, their lengths
must not add up to a multiple of three, unless both are such multiples. -/
def closesRun (closer opener : Run) : Bool :=
  opener.opens && opener.mark == closer.mark
    && (closer.mark != '~' || closer.length == opener.length)
    && ((!(closer.opens && closer.closes) && !(opener.opens && opener.closes))
      || (closer.length + opener.length) % 3 != 0 || closer.length % 3 == 0)

end Run

inductive Item where
  /-- A character as it stands in the source. -/
  | char (c : Char)
  | plain (chars : List Char)
  | code (chars : List Char)
  | lineBreak
  | run (run : Run)
  /-- An opening bracket, with what follows it in the source. -/
  | bracket (image active : Bool) (after : List Char)
  deriving DecidableEq, Repr

namespace Item

def settle : Item → Item
  | run found => run { found with opens := false }
  | item => item

/-- The items before a closing run, last one first, after it has used up marks of the nearest
run that it matches, and how many marks that were. -/
def closeOnce? (closer : Run) : List Item → Option (Nat × List Item)
  | [] => none
  | run opener :: before =>
      if closer.closesRun opener then
        let used := min closer.left opener.left
        let rest := opener.left - used
        some (used, run { opener with left := rest, opens := rest != 0 } :: before)
      else
        (closeOnce? closer before).map fun (used, items) =>
          (used, settle (run opener) :: items)
  | item :: before =>
      (closeOnce? closer before).map fun (used, items) => (used, item :: items)

/-- Closes what a run can close. `budget` bounds the number of runs that it matches; each takes
away at least one of its marks. -/
def closeAll : (budget : Nat) → Run → List Item → Run × List Item
  | 0, closer, items => (closer, items)
  | budget + 1, closer, items =>
      if closer.left = 0 then (closer, items)
      else
        match closeOnce? closer items with
        | some (used, next) => closeAll budget { closer with left := closer.left - used } next
        | none => (closer, items)

def settleTildes (closer : Run) (items : List Item) : List Item :=
  if closer.mark = '~' ∧ closer.left ≠ 0 then
    items.map fun item =>
      match item with
      | run opener => if opener.mark = '~' then settle item else item
      | _ => item
  else items

def push (items : List Item) : Item → List Item
  | run found =>
      if found.closes then
        let (closer, before) := closeAll found.left found items
        let before := settleTildes closer before
        if closer.left = 0 then before else run closer :: before
      else run found :: items
  | item => item :: items

def resolve (items : List Item) : List Item :=
  ((items.foldl push []).map settle).reverse

def inline : Item → List Inline
  | char c => [.text [c]]
  | plain chars => [.text chars]
  | code chars => [.code chars]
  | lineBreak => [.lineBreak]
  | run found => if found.left = 0 then [] else [.text (List.replicate found.left found.mark)]
  | bracket image _ _ => [.text (if image then ['!', '['] else ['['])]

end Item

/-! ## Code spans -/

namespace CodeSpan

/-- Splits at the next run of exactly `width` backticks. `skip` counts the characters of a
longer or shorter run that are still ahead. -/
def split? (width : Nat) : (skip : Nat) → List Char → Option (List Char × List Char)
  | _, [] => none
  | skip + 1, c :: rest =>
      (split? width skip rest).map fun (inside, after) => (c :: inside, after)
  | 0, c :: rest =>
      if c = '\x60' then
        let length := runLength '\x60' rest + 1
        if length = width then some ([], rest.drop (length - 1))
        else
          (split? width (length - 1) rest).map fun (inside, after) => (c :: inside, after)
      else (split? width 0 rest).map fun (inside, after) => (c :: inside, after)

/-- The code of a span: line breaks are spaces, and one space at each end does not count, unless
there is nothing else. -/
def content (inside : List Char) : List Char :=
  let spaced := inside.map fun c => if c = '\n' then ' ' else c
  if spaced.head? = some ' ' ∧ spaced.getLast? = some ' ' ∧ !spaced.all (· == ' ') then
    (spaced.drop 1).dropLast
  else spaced

example : (split? 1 0 "a\x60\x60b\x60c".toList)
    = some ("a\x60\x60b".toList, ['c']) := by decide

end CodeSpan

/-! ## Links -/

/-- What a closing bracket does: the items in front of it, and how many characters behind it
belong to the link. -/
structure Closing where
  items : List Item
  skip : Nat

namespace Closing

/-- Splits at the last opening bracket: the items behind it in their order, whether it is that
of an image, whether it may still begin a link, what follows it in the source, and the items
before it, last one first. -/
def splitAtBracket? : (inside : List Item) → List Item →
    Option (List Item × Bool × Bool × List Char × List Item)
  | _, [] => none
  | inside, .bracket image active after :: before => some (inside, image, active, after, before)
  | inside, item :: before => splitAtBracket? (item :: inside) before

def linkEnd? (labels : List Label) (inner rest : List Char) : Option (List Char) :=
  match Link.afterTarget? rest with
  | some after => some after
  | none =>
      let ownLabel (after : List Char) : Option (List Char) :=
        match Label.read? (inner ++ [']']) with
        | some (label, []) => if labels.contains label then some after else none
        | _ => none
      match rest with
      | '[' :: ']' :: after => ownLabel after
      | '[' :: reference =>
          match Label.read? reference with
          | some (label, after) => if labels.contains label then some after else none
          | none => ownLabel rest
      | _ => ownLabel rest

def deactivate : Item → Item
  | .bracket false _ after => .bracket false false after
  | item => item

def ofItems (labels : List Label) (items : List Item) (rest : List Char) : Closing :=
  match splitAtBracket? [] items with
  | none => ⟨.char ']' :: items, 0⟩
  | some (inside, image, active, after, before) =>
      let literal : Closing :=
        ⟨.char ']' :: inside.reverse ++ .plain (if image then ['!', '['] else ['[']) :: before, 0⟩
      if !active then literal
      else
        match linkEnd? labels (after.take (after.length - (rest.length + 1))) rest with
        | some behind =>
            let outer := if image then before else before.map deactivate
            ⟨(Item.resolve inside).reverse ++ outer, rest.length - behind.length⟩
        | none => literal

end Closing

/-! ## Reading -/

def dropHardBlanks (items : List Item) : List Item :=
  let isBlank : Item → Bool
    | .char c => isLineBlank c
    | _ => false
  if 2 ≤ (items.takeWhile isBlank).length then items.dropWhile isBlank else items

/-- What is read at a character: the items with what it adds to them, last one first, and how
many further characters belong to it. -/
structure Step where
  items : List Item
  skip : Nat

def breakWidth (rest : List Char) : Nat :=
  (rest.takeWhile fun c => c == ' ' || c == '\t').length

def readAt (labels : List Label) (before : Option Char) (items : List Item) (c : Char)
    (rest : List Char) : Step :=
  let literal : Step := ⟨.char c :: items, 0⟩
  match c with
  | '\\' =>
      match rest with
      | '\n' :: after => ⟨.lineBreak :: items, breakWidth after + 1⟩
      | next :: _ =>
          if Text.isAsciiPunctuation next then ⟨.char next :: items, 1⟩ else literal
      | [] => literal
  | '\n' => ⟨.lineBreak :: dropHardBlanks items, breakWidth rest⟩
  | '\x60' =>
      let width := runLength '\x60' rest + 1
      let after := rest.drop (width - 1)
      match CodeSpan.split? width 0 after with
      | some (inside, behind) =>
          ⟨.code (CodeSpan.content inside) :: items, rest.length - behind.length⟩
      | none => ⟨.plain (List.replicate width '\x60') :: items, width - 1⟩
  | '<' =>
      match Html.address? rest, Html.afterInline? rest with
      | some (address, behind), _ => ⟨.plain address :: items, rest.length - behind.length⟩
      | none, some behind => ⟨items, rest.length - behind.length⟩
      | none, none => literal
  | '&' =>
      match CharacterReference.read? rest with
      | some reference => ⟨.plain reference.value :: items, reference.width⟩
      | none => literal
  | '!' =>
      match rest with
      | '[' :: after => ⟨.bracket true true after :: items, 1⟩
      | _ => literal
  | '[' => ⟨.bracket false true rest :: items, 0⟩
  | ']' =>
      let closing := Closing.ofItems labels items rest
      ⟨closing.items, closing.skip⟩
  | _ =>
      if c = '*' ∨ c = '_' ∨ c = '~' then
        match Run.ofSource? before c rest with
        | some run => ⟨.run run :: items, run.length - 1⟩
        | none =>
            let further := runLength c rest
            ⟨.plain (List.replicate (further + 1) c) :: items, further⟩
      else literal

/-- `skip` counts the characters that belong to what was read last. -/
def readFrom (labels : List Label) :
    (before : Option Char) → (skip : Nat) → (items : List Item) → List Char → List Item
  | _, _, items, [] => items
  | _, skip + 1, items, c :: rest => readFrom labels (some c) skip items rest
  | before, 0, items, c :: rest =>
      let step := readAt labels before items c rest
      readFrom labels (some c) step.skip step.items rest

def read (labels : List Label) (text : List Char) : List Inline :=
  (Item.resolve (readFrom labels none 0 [] text).reverse).flatMap Item.inline

end Inline

end LiterateTest.Markdown
