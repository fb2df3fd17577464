import LiterateTest.Document.Block

/-! The reading of blocks from a walk that is well nested. Such a walk is that through a tree of
parts; the blocks that are read come part by part, and an item of a list gets the text that follows
its start. -/

namespace LiterateTest

namespace Markdown

/-! ## Parts -/

/-- What only holds parts together. -/
inductive Group where
  | paragraph
  | quote
  deriving DecidableEq, Repr

/-- What has nothing but its own texts in it. -/
inductive Leaf where
  | heading (level : Nat) (content : List Inline)
  | code (info : Option String) (content : List Inline)
  | table (headers : List (List Inline)) (rows : List (List (List Inline)))
  deriving DecidableEq, Repr

inductive Part where
  | inline (content : Inline)
  | group (kind : Group) (parts : List Part)
  | leaf (block : Leaf)
  | list (items : List (List Part))
  deriving Repr

def Group.tag : Group → Tag
  | paragraph => .paragraph
  | quote => .quote

def rowEvents (tag : Tag) (cells : List (List Inline)) : List Event :=
  Piece.wrap tag (cells.flatMap fun cell => Piece.wrap .tableCell (cell.map Inline.event))

def Leaf.events : Leaf → List Event
  | heading level content => Piece.wrap (.heading level) (content.map Inline.event)
  | code info content => Piece.wrap (.codeBlock info) (content.map Inline.event)
  | table headers rows =>
      Piece.wrap .table (rowEvents .tableHead headers ++ rows.flatMap (rowEvents .tableRow))

mutual

def Part.events : Part → List Event
  | .inline content => [content.event]
  | .group kind parts => Piece.wrap kind.tag (eventsOf parts)
  | .leaf block => block.events
  | .list items => Piece.wrap .list (itemEvents items)

def eventsOf : List Part → List Event
  | [] => []
  | part :: parts => part.events ++ eventsOf parts

def itemEvents : List (List Part) → List Event
  | [] => []
  | item :: items => Piece.wrap .item (eventsOf item) ++ itemEvents items

end

/-! ## Texts -/

def Inline.textWith (between : String) : Inline → String
  | text chars => String.ofList chars
  | code chars => String.ofList chars
  | lineBreak => between

def contentText (between : String) (content : List Inline) : String :=
  String.join (content.map (Inline.textWith between))

def cellText (cell : List Inline) : String := Text.trim (contentText " " cell)

def breakIn (inItem : Bool) : String := if inItem then "\n" else " "

def Leaf.block (inItem : Bool) : Leaf → Block
  | heading level content => .heading level (Text.trim (contentText (breakIn inItem) content))
  | code info content =>
      .code ((info.map Language.ofInfo).getD "") (contentText (breakIn inItem) content)
  | table headers rows => .table (headers.map cellText) (rows.map (List.map cellText))

theorem Leaf.block_ne_list (inItem : Bool) (leaf : Leaf) (entries : List String) :
    leaf.block inItem ≠ .list entries := by
  cases leaf <;> exact Block.noConfusion

end Markdown

open Markdown (Inline Leaf Part Event)

/-! ## The texts of a list -/

/-- In the text of a list, an item begins, or there is some text. -/
inductive Mark where
  | itemStart
  | text (text : String)
  deriving DecidableEq, Repr

namespace Mark

def leading : List Mark → String
  | [] => ""
  | itemStart :: _ => ""
  | text own :: rest => own ++ leading rest

def begun : List Mark → List String
  | [] => []
  | itemStart :: rest => leading rest :: begun rest
  | text _ :: rest => begun rest

end Mark

namespace Markdown

mutual

def Part.marks : Part → List Mark
  | .inline content => [.text (content.textWith "\n")]
  | .group _ parts => marksOf parts
  | .leaf _ => []
  | .list items => itemMarks items

def marksOf : List Part → List Mark
  | [] => []
  | part :: parts => part.marks ++ marksOf parts

def itemMarks : List (List Part) → List Mark
  | [] => []
  | item :: items => .itemStart :: marksOf item ++ itemMarks items

end

/-! ## The blocks of parts -/

mutual

def Part.blocks (inItem : Bool) : Part → List Block
  | .inline _ => []
  | .group _ parts => blocksOf inItem parts
  | .leaf block => [block.block inItem]
  | .list items =>
      itemBlocks items ++
        if inItem then [] else [.list ((Mark.begun (itemMarks items)).map Text.trim)]

def blocksOf (inItem : Bool) : List Part → List Block
  | [] => []
  | part :: parts => part.blocks inItem ++ blocksOf inItem parts

def itemBlocks : List (List Part) → List Block
  | [] => []
  | item :: items => blocksOf true item ++ itemBlocks items

end

theorem blocksOf_append (inItem : Bool) (front rest : List Part) :
    blocksOf inItem (front ++ rest) = blocksOf inItem front ++ blocksOf inItem rest := by
  induction front with
  | nil => rfl
  | cons part front induction =>
      rw [List.cons_append, blocksOf, blocksOf, induction, List.append_assoc]

mutual

theorem Part.ne_list_of_mem_blocks : ∀ part : Part, ∀ block ∈ part.blocks true,
    ∀ entries, block ≠ .list entries
  | .inline _, _, member, _ => by cases member
  | .group _ parts, block, member, entries => ne_list_of_mem_blocksOf parts block member entries
  | .leaf leaf, block, member, entries => by
      rw [List.mem_singleton.mp member]
      exact leaf.block_ne_list true entries
  | .list items, block, member, entries => by
      rw [Part.blocks, if_pos rfl, List.append_nil] at member
      exact ne_list_of_mem_itemBlocks items block member entries

theorem ne_list_of_mem_blocksOf : ∀ parts : List Part, ∀ block ∈ blocksOf true parts,
    ∀ entries, block ≠ .list entries
  | [], _, member, _ => by cases member
  | part :: parts, block, member, entries => by
      rcases List.mem_append.mp member with member | member
      · exact part.ne_list_of_mem_blocks block member entries
      · exact ne_list_of_mem_blocksOf parts block member entries

theorem ne_list_of_mem_itemBlocks : ∀ items : List (List Part), ∀ block ∈ itemBlocks items,
    ∀ entries, block ≠ .list entries
  | [], _, member, _ => by cases member
  | item :: items, block, member, entries => by
      rcases List.mem_append.mp member with member | member
      · exact ne_list_of_mem_blocksOf item block member entries
      · exact ne_list_of_mem_itemBlocks items block member entries

end

end Markdown

/-! ## Reading -/

namespace OpenLeaf

theorem append_append (leaf : OpenLeaf) (first second : String) :
    (leaf.append first).append second = leaf.append (first ++ second) := by
  cases leaf <;> simp [append, String.append_assoc]

theorem append_empty (leaf : OpenLeaf) : leaf.append "" = leaf := by
  cases leaf <;> simp [append]

def breakIn (inItem : Bool) (leaf : OpenLeaf) : String :=
  Markdown.breakIn (inItem && !leaf.isCell)

theorem breakIn_append (inItem : Bool) (leaf : OpenLeaf) (text : String) :
    (leaf.append text).breakIn inItem = leaf.breakIn inItem := by
  cases leaf <;> rfl

end OpenLeaf

namespace BlockReader

open Markdown

def read (reader : BlockReader) (events : List Event) : BlockReader := events.foldl step reader

@[simp] theorem read_nil (reader : BlockReader) : reader.read [] = reader := rfl

@[simp] theorem read_cons (reader : BlockReader) (event : Event) (events : List Event) :
    reader.read (event :: events) = (reader.step event).read events := rfl

@[simp] theorem read_append (reader : BlockReader) (front rest : List Event) :
    reader.read (front ++ rest) = (reader.read front).read rest := List.foldl_append

theorem read_wrap (reader : BlockReader) (tag : Tag) (content : List Event) :
    reader.read (Piece.wrap tag content) = ((reader.start tag).read content).finish tag := by
  rw [Piece.wrap, List.cons_append, read_cons, read_append]
  rfl

/-! ### Headings, code and tables -/

theorem step_inline {reader : BlockReader} {leaf : OpenLeaf} (isOpen : reader.leaf = some leaf)
    (content : Inline) :
    reader.step content.event =
      { reader with
        leaf := some (leaf.append (content.textWith (leaf.breakIn reader.inItem))) } := by
  cases content with
  | text chars | code chars => simp [step, Inline.event, addText, isOpen, Inline.textWith]
  | lineBreak =>
      simp [step, Inline.event, addText, isOpen, Inline.textWith, breakText, OpenLeaf.breakIn,
        breakIn]

theorem read_content {reader : BlockReader} (leaf : OpenLeaf) (isOpen : reader.leaf = some leaf)
    (content : List Inline) :
    reader.read (content.map Inline.event) =
      { reader with
        leaf := some (leaf.append (contentText (leaf.breakIn reader.inItem) content)) } := by
  induction content generalizing reader leaf with
  | nil =>
      rw [contentText, List.map_nil, List.map_nil, read_nil, String.join_nil,
        OpenLeaf.append_empty, ← isOpen]
  | cons first rest induction =>
      rw [List.map_cons, read_cons, step_inline isOpen, induction _ rfl, OpenLeaf.breakIn_append,
        OpenLeaf.append_append, contentText, contentText, List.map_cons, String.join_cons]

def inTable (reader : BlockReader) (headers : List String) (rows : List (List String))
    (inTableHead : Bool) : BlockReader :=
  { reader with leaf := none, headers, rows, inTableHead }

section

variable (reader : BlockReader) (headers : List String) (rows : List (List String))

theorem read_cell (inHead : Bool) (cell : List Inline) :
    (reader.inTable headers rows inHead).read
        (Piece.wrap .tableCell (cell.map Inline.event)) =
      if inHead then reader.inTable (headers ++ [cellText cell]) rows inHead
      else reader.inTable headers (addCell (cellText cell) rows) inHead := by
  rw [read_wrap, read_content (.cell "") rfl]
  cases inHead <;>
    simp [finish, start, inTable, OpenLeaf.append, OpenLeaf.isCell, OpenLeaf.breakIn, breakIn,
      cellText]

theorem read_headerCells (cells : List (List Inline)) :
    (reader.inTable headers rows true).read
        (cells.flatMap fun cell => Piece.wrap .tableCell (cell.map Inline.event)) =
      reader.inTable (headers ++ cells.map cellText) rows true := by
  induction cells generalizing headers with
  | nil => simp
  | cons cell cells induction =>
      rw [List.flatMap_cons, read_append, read_cell, if_pos rfl, induction]
      simp

theorem read_rowCells (row : List String) (cells : List (List Inline)) :
    (reader.inTable headers (row :: rows) false).read
        (cells.flatMap fun cell => Piece.wrap .tableCell (cell.map Inline.event)) =
      reader.inTable headers ((row ++ cells.map cellText) :: rows) false := by
  induction cells generalizing row with
  | nil => simp
  | cons cell cells induction =>
      rw [List.flatMap_cons, read_append, read_cell, if_neg Bool.false_ne_true, addCell, induction]
      simp

theorem read_rows (body : List (List (List Inline))) :
    (reader.inTable headers rows false).read (body.flatMap (rowEvents .tableRow)) =
      reader.inTable headers ((body.map (List.map cellText)).reverse ++ rows) false := by
  induction body generalizing rows with
  | nil => simp
  | cons row body induction =>
      have begun : (reader.inTable headers rows false).start .tableRow =
          reader.inTable headers ([] :: rows) false := rfl
      have done : ∀ reader : BlockReader, reader.finish .tableRow = reader := fun _ => rfl
      rw [List.flatMap_cons, read_append, rowEvents, read_wrap, begun, read_rowCells, done,
        induction]
      simp

end

def resting (blocks : List Block) (items : List String) (depth : Nat) (inItem : Bool) :
    BlockReader :=
  { blocks, items, depth, inItem }

theorem read_leaf (blocks : List Block) (items : List String) (depth : Nat) (inItem : Bool)
    (leaf : Leaf) :
    (resting blocks items depth inItem).read leaf.events =
      resting (leaf.block inItem :: blocks) items depth inItem := by
  cases leaf with
  | heading level content =>
      rw [Leaf.events, read_wrap, read_content (.heading level "") rfl]
      simp [finish, push, start, resting, Leaf.block, OpenLeaf.append, OpenLeaf.isCell,
        OpenLeaf.breakIn]
  | code info content =>
      rw [Leaf.events, read_wrap, read_content (.code ((info.map Language.ofInfo).getD "") "") rfl]
      simp [finish, push, start, resting, Leaf.block, OpenLeaf.append, OpenLeaf.isCell,
        OpenLeaf.breakIn]
  | table headers rows =>
      let reader := resting blocks items depth inItem
      have begun : (reader.start .table).start .tableHead = reader.inTable [] [] true := rfl
      have behindHead : ∀ headers, (reader.inTable headers [] true).finish .tableHead =
          reader.inTable headers [] false := fun _ => rfl
      rw [Leaf.events, read_wrap, read_append, rowEvents, read_wrap, begun, read_headerCells,
        behindHead, read_rows]
      simp [finish, push, inTable, reader, resting, Leaf.block]

/-! ### Lists -/

def receive (items : List String) : Mark → List String
  | .itemStart => "" :: items
  | .text text => appendToLast text items

mutual

/-- In an item the text of a part goes to the items, and its blocks stand before the list. -/
theorem read_part : ∀ (part : Part) (blocks : List Block) (items : List String) (depth : Nat),
    (resting blocks items (depth + 1) true).read part.events =
      resting ((part.blocks true).reverse ++ blocks) (part.marks.foldl receive items)
        (depth + 1) true
  | .inline content, blocks, items, depth => by
      cases content <;> rfl
  | .group kind parts, blocks, items, depth => by
      cases kind <;> rw [Part.events, read_wrap] <;> exact read_parts parts blocks items depth
  | .leaf leaf, blocks, items, depth => read_leaf blocks items (depth + 1) true leaf
  | .list nested, blocks, items, depth => by
      have begun : (resting blocks items (depth + 1) true).start .list =
          resting blocks items (depth + 2) (decide (0 < depth + 1)) := by
        simp [start, resting]
      rw [Part.events, read_wrap, begun, read_items nested blocks items (depth + 1), Part.blocks,
        if_pos rfl, List.append_nil]
      simp [finish, resting, Part.marks]

theorem read_parts : ∀ (parts : List Part) (blocks : List Block) (items : List String)
    (depth : Nat),
    (resting blocks items (depth + 1) true).read (eventsOf parts) =
      resting ((blocksOf true parts).reverse ++ blocks) ((marksOf parts).foldl receive items)
        (depth + 1) true
  | [], blocks, items, depth => rfl
  | part :: parts, blocks, items, depth => by
      rw [eventsOf, read_append, read_part part, read_parts parts, blocksOf, marksOf,
        List.reverse_append, List.append_assoc, List.foldl_append]

theorem read_items : ∀ (list : List (List Part)) (blocks : List Block) (items : List String)
    (depth : Nat),
    (resting blocks items (depth + 1) (decide (0 < depth))).read (itemEvents list) =
      resting ((itemBlocks list).reverse ++ blocks) ((itemMarks list).foldl receive items)
        (depth + 1) (decide (0 < depth))
  | [], blocks, items, depth => rfl
  | item :: list, blocks, items, depth => by
      have begun : (resting blocks items (depth + 1) (decide (0 < depth))).start .item =
          resting blocks ("" :: items) (depth + 1) true := rfl
      have done : ∀ (blocks : List Block) (items : List String),
          (resting blocks items (depth + 1) true).finish .item =
            resting blocks items (depth + 1) (decide (0 < depth)) := by
        intro blocks items
        simp [finish, resting]
      rw [itemEvents, read_append, read_wrap, begun, read_parts item, done, read_items list,
        itemBlocks, itemMarks, List.reverse_append, List.append_assoc, List.foldl_append]
      rfl

end

theorem foldl_receive (marks : List Mark) (last : String) (before : List String) :
    marks.foldl receive (last :: before) =
      (Mark.begun marks).reverse ++ (last ++ Mark.leading marks) :: before := by
  induction marks generalizing last before with
  | nil => simp [Mark.begun, Mark.leading]
  | cons mark marks induction =>
      cases mark with
      | itemStart =>
          rw [List.foldl_cons, receive, induction, Mark.begun, Mark.leading]
          simp
      | text own =>
          rw [List.foldl_cons, receive, appendToLast, induction, Mark.begun, Mark.leading,
            String.append_assoc]

theorem foldl_receive_itemMarks (list : List (List Part)) :
    (itemMarks list).foldl receive [] = (Mark.begun (itemMarks list)).reverse := by
  cases list with
  | nil => rfl
  | cons item list =>
      rw [itemMarks, List.cons_append, List.foldl_cons, receive, foldl_receive, Mark.begun]
      simp

theorem read_list (list : List (List Part)) (blocks : List Block) :
    (resting blocks [] 0 false).read (Part.list list).events =
      resting (.list ((Mark.begun (itemMarks list)).map Text.trim) ::
        ((itemBlocks list).reverse ++ blocks)) [] 0 false := by
  have begun : (resting blocks [] 0 false).start .list =
      resting blocks [] 1 (decide (0 < 0)) := rfl
  rw [Part.events, read_wrap, begun, read_items list blocks [] 0, foldl_receive_itemMarks]
  simp [finish, push, resting]

/-! ### Documents -/

mutual

theorem read_outside : ∀ (part : Part) (blocks : List Block),
    (resting blocks [] 0 false).read part.events =
      resting ((part.blocks false).reverse ++ blocks) [] 0 false
  | .inline content, blocks => by
      cases content <;> rfl
  | .group kind parts, blocks => by
      cases kind <;> rw [Part.events, read_wrap] <;> exact read_document parts blocks
  | .leaf leaf, blocks => read_leaf blocks [] 0 false leaf
  | .list items, blocks => by
      rw [read_list, Part.blocks, if_neg Bool.false_ne_true]
      simp

theorem read_document : ∀ (parts : List Part) (blocks : List Block),
    (resting blocks [] 0 false).read (eventsOf parts) =
      resting ((blocksOf false parts).reverse ++ blocks) [] 0 false
  | [], blocks => rfl
  | part :: parts, blocks => by
      rw [eventsOf, read_append, read_outside part, read_document parts, blocksOf,
        List.reverse_append, List.append_assoc]

end

end BlockReader

/-- The blocks of a well-nested walk are those of its parts, in their order. -/
theorem Block.ofEvents_eventsOf (parts : List Part) :
    Block.ofEvents (Markdown.eventsOf parts) = Markdown.blocksOf false parts := by
  have read := BlockReader.read_document parts []
  rw [List.append_nil] at read
  have blocks := congrArg BlockReader.blocks read
  exact (congrArg List.reverse blocks).trans (List.reverse_reverse _)

end LiterateTest
