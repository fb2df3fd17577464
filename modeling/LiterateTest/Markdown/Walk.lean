import LiterateTest.Markdown.Inline
import LiterateTest.Markdown.Outline

/-! The walk through a Markdown text: its blocks in their order, with their content. -/

namespace LiterateTest.Markdown

def Inline.event : Inline → Event
  | text chars => .text (String.ofList chars)
  | code chars => .code (String.ofList chars)
  | lineBreak => .lineBreak

def unescape : (skip : Nat) → List Char → List Char
  | _, [] => []
  | skip + 1, _ :: rest => unescape skip rest
  | 0, '\\' :: c :: rest =>
      if Text.isAsciiPunctuation c then c :: unescape 1 (c :: rest)
      else '\\' :: unescape 0 (c :: rest)
  | 0, '&' :: rest =>
      match CharacterReference.read? rest with
      | some reference => reference.value ++ unescape reference.width rest
      | none => '&' :: unescape 0 rest
  | 0, c :: rest => c :: unescape 0 rest

namespace Piece

def wrap (tag : Tag) (content : List Event) : List Event :=
  .start tag :: content ++ [.finish tag]

def inlineEvents (labels : List Label) (content : List Char) : List Event :=
  (Inline.read labels content).map Inline.event

def rowEvents (labels : List Label) (tag : Tag) (cells : List (List Char)) : List Event :=
  wrap tag (cells.flatMap fun cell => wrap .tableCell (inlineEvents labels cell))

def events (labels : List Label) : Piece → List Event
  | start container => [.start container.tag]
  | finish container => [.finish container.tag]
  | paragraph content => wrap .paragraph (inlineEvents labels content)
  | heading level content => wrap (.heading level) (inlineEvents labels content)
  | code info content =>
      wrap (.codeBlock (info.map fun text => String.ofList (unescape 0 text)))
        (if content.isEmpty then [] else [.text (String.ofList content)])
  | table found =>
      wrap .table
        (rowEvents labels .tableHead found.headers
          ++ found.rows.flatMap (rowEvents labels .tableRow))

end Piece

def events (text : String) : List Event :=
  let outline := Outline.ofChars text.toList
  outline.pieces.reverse.flatMap (Piece.events outline.labels)

end LiterateTest.Markdown
