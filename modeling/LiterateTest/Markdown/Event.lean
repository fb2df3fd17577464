/-! What is met, one after the other, on a walk through a Markdown text. -/

namespace LiterateTest.Markdown

inductive Tag where
  | paragraph
  | quote
  | heading (level : Nat)
  /-- A block of code, with the text behind its opening fence if it has one. -/
  | codeBlock (info : Option String)
  | list
  | item
  | table
  | tableHead
  | tableRow
  | tableCell
  deriving DecidableEq, Repr

inductive Event where
  | start (tag : Tag)
  | finish (tag : Tag)
  | text (text : String)
  | code (text : String)
  | lineBreak
  deriving DecidableEq, Repr

end LiterateTest.Markdown
