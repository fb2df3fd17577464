import LiterateTest.Markdown.BlockStart
import LiterateTest.Markdown.Event
import LiterateTest.Markdown.Html
import LiterateTest.Markdown.Link
import LiterateTest.Markdown.Table

/-! The block structure of a Markdown text. Lines are read from the first to the last; block
quotes, lists and list items stay open around them until a line does not continue them. The
content of paragraphs, headings and cells is kept as it is, since it may refer to labels that are
defined later. -/

namespace LiterateTest.Markdown

/-! ## Containers -/

inductive Container where
  | quote
  | list (kind : Char)
  /-- An item, with the columns that its lines are indented by. -/
  | item (indent : Nat)
  deriving DecidableEq, Repr

namespace Container

def tag : Container → Tag
  | quote => .quote
  | list _ => .list
  | item _ => .item

def quoteMark? (cursor : Cursor) : Option Cursor :=
  match cursor.rest with
  | '>' :: _ => some ((cursor.advance 1).dropUpTo 1).2
  | _ => none

/-- Goes behind what a line needs to stand in a container. A blank line stands in each item. -/
def next? (cursor : Cursor) : Container → Option Cursor
  | quote => quoteMark? (cursor.dropUpTo 3).2
  | list _ => some cursor
  | item indent =>
      let (missing, next) := cursor.dropUpTo indent
      if missing = 0 || next.atEnd then some next else none

def count (cursor : Cursor) : List Container → Nat × Cursor
  | [] => (0, cursor)
  | container :: inner =>
      match container.next? cursor with
      | some next =>
          let (matched, place) := count next inner
          (matched + 1, place)
      | none => (0, cursor)

def inside? (containers : List Container) (line : Line) : Option Cursor :=
  let (matched, cursor) := count (Cursor.ofLine line) containers
  if matched = containers.length then some cursor else none

end Container

/-! ## Code and markup -/

namespace Outline

def codeEnding (line : Line) : List Char :=
  if line.ending = ['\r', '\n'] then ['\n'] else line.ending

def fencedCode (containers : List Container) (fence : Fence) (indent : Nat) :
    List Line → List Char × Nat
  | [] => ([], 0)
  | line :: rest =>
      match Container.inside? containers line with
      | none => ([], 0)
      | some cursor =>
          let start := (cursor.dropUpTo indent).2
          let (missing, fenceStart) := start.dropUpTo (4 - indent)
          if missing ≠ 0 && fence.isClosedBy fenceStart.rest then ([], 1)
          else
            let (code, taken) := fencedCode containers fence indent rest
            (start.remainder ++ codeEnding line ++ code, taken + 1)

def indentedLines (containers : List Container) : List Line → List (Bool × List Char)
  | [] => []
  | line :: rest =>
      match Container.inside? containers line with
      | none => []
      | some cursor =>
          let (missing, start) := cursor.dropUpTo 4
          if missing = 0 || start.atEnd then
            (start.isBlank, start.remainder ++ codeEnding line) :: indentedLines containers rest
          else []

def joinCode (lines : List (Bool × List Char)) : List Char :=
  (((lines.reverse.dropWhile Prod.fst).reverse).map Prod.snd).flatten

def markedLines (containers : List Container) (mark : List Char) :
    (current : List Char) → List Line → Nat
  | _, [] => 0
  | current, line :: rest =>
      if Text.containsChars mark current then 0
      else
        match Container.inside? containers line with
        | none => 0
        | some cursor => markedLines containers mark cursor.rest rest + 1

def markupLines (containers : List Container) : List Line → Nat
  | [] => 0
  | line :: rest =>
      match Container.inside? containers line with
      | none => 0
      | some cursor => if cursor.isBlank then 0 else markupLines containers rest + 1

/-! ## Paragraphs and tables -/

def beginsBlock (text : List Char) : Bool :=
  text.isEmpty || isThematicBreak text || (headingLevel? text).isSome
    || (Fence.ofLine? text).isSome
    || match text with
      | '>' :: _ => true
      | '<' :: rest => (Html.blockEnd? rest).isSome || Html.beginsBlockTag rest
      | _ => false

def tableColumns? (containers : List Container) (pipes : Table.Pipes) (text : List Char)
    (next : Option Line) : Option Nat :=
  (next.bind (Container.inside? containers)).bind fun cursor =>
    Table.columns? pipes text cursor.rest

/-- Whether a line ends the paragraph before it. `inside` says whether it stands in all
containers of the paragraph. Of the tables, those do so whose first line begins with a pipe. -/
def interrupts (containers : List Container) (inside : Bool) (text : List Char)
    (next : Option Line) : Bool :=
  beginsBlock text
    || (if inside then ListMarker.interruptsParagraph text next else ListMarker.begins text)
    || (inside && text.head? == some '|'
      && (tableColumns? containers (Table.Pipes.ofSource false ⟨0, []⟩ text) text next).isSome)

/-- The lines behind the first one of a paragraph: their content, the level of the heading that
they make of it, and how many they are. -/
structure ParagraphRest where
  content : List Char
  level : Option Nat
  taken : Nat

def paragraphRest (containers : List Container) : List Line → ParagraphRest
  | [] => ⟨[], none, 0⟩
  | line :: rest =>
      let (matched, cursor) := Container.count (Cursor.ofLine line) containers
      let inside : Bool := matched == containers.length
      let (missing, start) := cursor.dropUpTo 4
      let indented : Bool := missing == 0
      let underline := if inside && !indented then underlineLevel? start.rest else none
      match underline with
      | some level => ⟨[], some level, 1⟩
      | none =>
          if (!indented && interrupts containers inside start.rest rest.head?)
              || cursor.dropAll.atEnd then
            ⟨[], none, 0⟩
          else
            let more := paragraphRest containers rest
            ⟨'\n' :: cursor.rest ++ more.content, more.level, more.taken + 1⟩

/-- A single blank stays at the end of a paragraph whose last line has a line break. -/
def trimParagraph (content : List Char) (last : Option Line) : List Char :=
  let blanks := (content.reverse.takeWhile isLineBlank).length
  if blanks = 1 ∧ (last.map fun line => line.ending.isEmpty) = some false then content
  else dropLineBlankEnd content

def tableRows (containers : List Container) : List Line → List (List (List Char))
  | [] => []
  | line :: rest =>
      match Container.inside? containers line with
      | none => []
      | some cursor =>
          let text := cursor.dropAll.rest
          let row := Table.cells text
          if beginsBlock text || ListMarker.begins text || row.isEmpty then []
          else row :: tableRows containers rest

def definitionLines (containers : List Container) : List Line → List Char
  | [] => []
  | line :: rest =>
      match Container.inside? containers line with
      | none => []
      | some cursor =>
          if cursor.isBlank then []
          else '\n' :: cursor.rest ++ definitionLines containers rest

end Outline

/-! ## The outline -/

inductive Piece where
  | start (container : Container)
  | finish (container : Container)
  | paragraph (content : List Char)
  | heading (level : Nat) (content : List Char)
  | code (info : Option (List Char)) (content : List Char)
  | table (table : Table)
  deriving DecidableEq, Repr

structure Outline where
  /-- The containers that are open, innermost first. -/
  containers : List Container := []
  /-- What has been read, last one first. -/
  pieces : List Piece := []
  labels : List Label := []
  /-- Whether the line before was the empty first line of an item. -/
  startsItem : Bool := false
  afterBlank : Bool := false

namespace Outline

def add (outline : Outline) (piece : Piece) : Outline :=
  { outline with pieces := piece :: outline.pieces }

def enter (outline : Outline) (container : Container) : Outline :=
  { outline.add (.start container) with containers := container :: outline.containers }

def close (outline : Outline) : Outline :=
  match outline.containers with
  | [] => outline
  | container :: outer =>
      { outline.add (.finish container) with
        containers := outer
        startsItem := outline.startsItem && container.tag != .list }

def closeMany : Nat → Outline → Outline
  | 0, outline => outline
  | count + 1, outline => closeMany count outline.close

def finishEmptyItem (outline : Outline) : Outline :=
  let finished :=
    match outline.containers with
    | .item _ :: _ =>
        if outline.startsItem && outline.afterBlank then outline.close else outline
    | _ => outline
  { finished with startsItem := false }

def finishList (outline : Outline) : Outline :=
  let finished := outline.finishEmptyItem
  let closed :=
    match finished.containers with
    | .list _ :: _ => finished.close
    | _ => finished
  { closed with afterBlank := false }

def enterItem (outline : Outline) (kind : Char) (indent : Nat) : Outline :=
  let finished := outline.finishEmptyItem
  let inList :=
    match finished.containers with
    | .list found :: _ =>
        if found = kind then finished else finished.finishList.enter (.list kind)
    | [] => finished.enter (.list kind)
    | _ => finished.finishList.enter (.list kind)
  { inList with afterBlank := false }.enter (.item indent)

/-- The item that begins at a place: the kind of its list, its indentation, and where its
content begins. `outer` counts the blanks in front of the mark. -/
def listItem? (outer : Nat) (cursor : Cursor) : Option (Char × Nat × Cursor) :=
  match ListMarker.ofLine? cursor.rest with
  | none => none
  | some marker =>
      let (missing, spaced) := (cursor.advance marker.width).dropUpTo 1
      if isThematicBreak cursor.rest || (missing ≠ 0 && !spaced.atEnd) then none
      else
        let indent := outer + marker.width + 1
        if spaced.isBlank then some (marker.kind, indent, spaced)
        else
          let (left, content) := spaced.dropUpTo 4
          if left = 0 then some (marker.kind, indent, spaced)
          else some (marker.kind, indent + (4 - left), content)

/-- Opens the containers that a line begins, and says where it goes on and whether it ends with
the mark of an item. A line begins at most as many containers as it has characters. -/
def enterAll : (budget : List Char) → Outline → Cursor → Outline × Cursor × Bool
  | [], outline, cursor => (outline, cursor, false)
  | _ :: budget, outline, cursor =>
      let (missing, start) := cursor.dropUpTo 4
      if missing = 0 then (outline, cursor, false)
      else
        match listItem? (4 - missing) start, Container.quoteMark? start with
        | some (kind, indent, content), _ =>
            let inItem := outline.enterItem kind indent
            if content.isBlank then ({ inItem with startsItem := true }, content, true)
            else enterAll budget inItem content
        | none, some content => enterAll budget (outline.finishList.enter .quote) content
        | none, none => (outline, cursor, false)

/-! ## Leaves -/

def readParagraph (outline : Outline) (text : List Char) (line : Line) (rest : List Line) :
    Outline × Nat :=
  let containers := outline.containers.reverse
  match tableColumns? containers (Table.Pipes.ofLine ⟨0, []⟩ text) text rest.head? with
  | some columns =>
    let rows := tableRows containers (rest.drop 1)
    let table := ⟨Table.fit columns (Table.cells text), rows.map (Table.fit columns)⟩
    (outline.add (.table table), rows.length + 2)
  | none =>
    let more := paragraphRest containers rest
    let content := text ++ more.content
    match more.level with
    | some level => (outline.add (.heading level (dropLineBlankEnd content)), more.taken + 1)
    | none =>
        let last := ((line :: rest).drop more.taken).head?
        (outline.add (.paragraph (trimParagraph content last)), more.taken + 1)

def readDefinition? (outline : Outline) (text : List Char) (rest : List Line) :
    Option (Outline × Nat) :=
  let whole := text ++ definitionLines outline.containers.reverse rest
  (Definition.read? whole).map fun definition =>
    let read := whole.take (whole.length - definition.after.length)
    ({ outline with labels := definition.label :: outline.labels }, read.count '\n' + 1)

def markupBlock? (containers : List Container) (text : List Char) (rest : List Line) :
    Option Nat :=
  match text with
  | '<' :: inside =>
      match Html.blockEnd? inside with
      | some mark => some (markedLines containers mark text rest + 1)
      | none =>
          if Html.beginsBlockTag inside || Html.isLoneTag inside then
            some (markupLines containers rest + 1)
          else none
  | _ => none

def readBlock (outline : Outline) (indent : Nat) (text : List Char) (line : Line)
    (rest : List Line) : Outline × Nat :=
  let containers := outline.containers.reverse
  match markupBlock? containers text rest with
  | some taken => (outline, taken)
  | none =>
      if isThematicBreak text then (outline, 1)
      else
        match headingLevel? text, outline.readDefinition? text rest, Fence.ofLine? text with
        | some level, _, _ => (outline.add (.heading level (headingText level text)), 1)
        | none, some result, _ => result
        | none, none, some fence =>
            let (code, taken) := fencedCode containers fence indent rest
            (outline.add (.code (some (fence.info text)) code), taken + 1)
        | none, none, none => outline.readParagraph text line rest

def readLine (outline : Outline) (line : Line) (rest : List Line) : Outline × Nat :=
  let (matched, place) := Container.count (Cursor.ofLine line) outline.containers.reverse
  let kept := closeMany (outline.containers.length - matched) outline
  let (entered, cursor, isEmptyItem) := enterAll line.text kept place
  if isEmptyItem then (entered, 1)
  else if cursor.isBlank then
    match entered.containers with
    | .quote :: _ => (entered, 1)
    | _ => ({ entered with afterBlank := true }, 1)
  else
    let next := entered.finishList
    let (missing, start) := cursor.dropUpTo 4
    if missing = 0 then
      let lines := indentedLines next.containers.reverse rest
      let first := (false, start.remainder ++ codeEnding line)
      (next.add (.code none (joinCode (first :: lines))), lines.length + 1)
    else next.readBlock (4 - missing) start.rest line rest

/-- `skip` counts the lines that belong to what was read last. -/
def readFrom : (skip : Nat) → Outline → List Line → Outline
  | _, outline, [] => closeMany outline.containers.length outline
  | skip + 1, outline, _ :: rest => readFrom skip outline rest
  | 0, outline, line :: rest =>
      let (next, taken) := outline.readLine line rest
      readFrom (taken - 1) next rest

def ofChars (text : List Char) : Outline :=
  readFrom 0 {} (Line.ofChars text)

end Outline

end LiterateTest.Markdown
