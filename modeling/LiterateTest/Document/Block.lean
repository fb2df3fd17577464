import LiterateTest.Document.Language
import LiterateTest.Markdown.Walk

/-! The blocks of a document that tests are made from: headings, code, lists and tables, each
with its plain text. Everything else is left out. -/

namespace LiterateTest

inductive Block where
  | heading (level : Nat) (text : String)
  /-- Code without a fence has an empty language. -/
  | code (language content : String)
  /-- All items of a list and of the lists inside it, in the order in which they begin. -/
  | list (items : List String)
  | table (headers : List String) (rows : List (List String))
  deriving DecidableEq, Repr

/-! ## Walking through a document -/

inductive OpenLeaf where
  | heading (level : Nat) (text : String)
  | code (language content : String)
  | cell (text : String)
  deriving DecidableEq, Repr

namespace OpenLeaf

def append (leaf : OpenLeaf) (text : String) : OpenLeaf :=
  match leaf with
  | heading level before => heading level (before ++ text)
  | code language before => code language (before ++ text)
  | cell before => cell (before ++ text)

def isCell : OpenLeaf → Bool
  | cell _ => true
  | _ => false

end OpenLeaf

/-- What is known in the middle of a walk. Lists of parts have the last part first. -/
structure BlockReader where
  blocks : List Block := []
  leaf : Option OpenLeaf := none
  /-- How many lists are open. -/
  depth : Nat := 0
  items : List String := []
  inItem : Bool := false
  headers : List String := []
  rows : List (List String) := []
  inTableHead : Bool := false
  deriving DecidableEq, Repr

namespace BlockReader

open Markdown (Event Tag)

def push (reader : BlockReader) (block : Block) : BlockReader :=
  { reader with blocks := block :: reader.blocks, leaf := none }

def appendToLast (text : String) : List String → List String
  | [] => []
  | last :: before => (last ++ text) :: before

/-- Text belongs to the leaf that is open, and otherwise to the item that began last. -/
def addText (reader : BlockReader) (text : String) : BlockReader :=
  match reader.leaf with
  | some leaf => { reader with leaf := some (leaf.append text) }
  | none =>
      if reader.inItem then { reader with items := appendToLast text reader.items }
      else reader

/-- Lines stay apart in items; elsewhere a line break is a space. -/
def breakText (reader : BlockReader) : String :=
  if reader.inItem ∧ (reader.leaf.map OpenLeaf.isCell).getD false = false then "\n" else " "

def start (reader : BlockReader) : Tag → BlockReader
  | .heading level => { reader with leaf := some (.heading level "") }
  | .codeBlock info =>
      { reader with leaf := some (.code ((info.map Language.ofInfo).getD "") "") }
  | .list => { reader with depth := reader.depth + 1 }
  | .item => { reader with items := "" :: reader.items, inItem := true }
  | .table => { reader with headers := [], rows := [] }
  | .tableHead => { reader with inTableHead := true }
  | .tableRow => { reader with rows := [] :: reader.rows }
  | .tableCell => { reader with leaf := some (.cell "") }
  | _ => reader

def addCell (cell : String) : List (List String) → List (List String)
  | [] => []
  | row :: before => (row ++ [cell]) :: before

def finish (reader : BlockReader) : Tag → BlockReader
  | .heading _ =>
      match reader.leaf with
      | some (.heading level text) => reader.push (.heading level (Text.trim text))
      | _ => reader
  | .codeBlock _ =>
      match reader.leaf with
      | some (.code language content) => reader.push (.code language content)
      | _ => reader
  | .item => { reader with inItem := 1 < reader.depth }
  | .list =>
      if reader.depth ≤ 1 then
        { reader.push (.list (reader.items.reverse.map Text.trim)) with
          depth := 0, items := [], inItem := false }
      else { reader with depth := reader.depth - 1 }
  | .tableHead => { reader with inTableHead := false }
  | .tableCell =>
      match reader.leaf with
      | some (.cell text) =>
          let cell := Text.trim text
          if reader.inTableHead then
            { reader with leaf := none, headers := reader.headers ++ [cell] }
          else { reader with leaf := none, rows := addCell cell reader.rows }
      | _ => reader
  | .table =>
      { reader.push (.table reader.headers reader.rows.reverse) with headers := [], rows := [] }
  | _ => reader

def step (reader : BlockReader) : Event → BlockReader
  | .start tag => reader.start tag
  | .finish tag => reader.finish tag
  | .text text => reader.addText text
  | .code text => reader.addText text
  | .lineBreak => reader.addText reader.breakText

end BlockReader

namespace Block

def ofEvents (events : List Markdown.Event) : List Block :=
  (events.foldl BlockReader.step {}).blocks.reverse

def ofMarkdown (text : String) : List Block :=
  ofEvents (Markdown.events text)

end Block

end LiterateTest
