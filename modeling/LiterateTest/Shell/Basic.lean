import LiterateTest.Text.Basic

/-! Scripts of the shell: words, redirections and statements. -/

namespace LiterateTest.Shell

/-! ## Words -/

/-- A piece of a word. What stands between quotes is neither split nor matched with files. -/
inductive Piece where
  | text (quoted : Bool) (text : String)
  /-- The value of a variable. `operation` is what follows its name between braces. -/
  | variable (quoted : Bool) (name operation : String)
  /-- What a script writes. -/
  | output (quoted : Bool) (script : String)
  /-- The value of a formula. -/
  | number (quoted : Bool) (formula : String)
  deriving DecidableEq, Repr

abbrev Word := List Piece

namespace Word

def plain? : Word → Option String
  | [.text false text] => some text
  | _ => none

def put (quoted : Bool) (c : Char) : Word → Word
  | .text found text :: rest =>
      if found = quoted then .text found (String.ofList (c :: text.toList)) :: rest
      else .text quoted c.toString :: .text found text :: rest
  | word => .text quoted c.toString :: word

example : put false 'a' [.text false "b"] = [.text false "ab"] := by decide

end Word

/-! ## Redirections -/

inductive RedirectionKind where
  | read
  | write
  | append
  /-- Output goes where another descriptor's goes. -/
  | duplicate
  /-- Output and errors go to one file. -/
  | writeBoth
  | appendBoth
  /-- The word itself is read. -/
  | hereText
  /-- The word is read as a line. -/
  | hereLine
  deriving DecidableEq, Repr

structure Redirection where
  descriptor : Nat
  kind : RedirectionKind
  word : Word
  deriving DecidableEq, Repr

/-! ## Statements -/

inductive Statement where
  | nothing
  /-- A command with the line on which it stands. -/
  | command (line : Nat) (assignments : List (String × Word)) (words : List Word)
      (redirections : List Redirection)
  | sequence (first second : Statement)
  | both (first second : Statement)
  | either (first second : Statement)
  | negation (inner : Statement)
  | pipe (left right : Statement)
  | subshell (inner : Statement)
  | choice (condition yes no : Statement)
  /-- A loop that goes on as long as the condition holds, or as long as it does not. -/
  | loop (whileHolds : Bool) (condition body : Statement)
  | forEach (name : String) (words : List Word) (body : Statement)
  /-- Runs `body` if one of the patterns matches the word. -/
  | caseOf (word : Word) (patterns : List Word) (body otherwise : Statement)
  | function (name : String) (body : Statement)
  | redirected (line : Nat) (inner : Statement) (redirections : List Redirection)
  deriving Repr

/-! ## Faults -/

inductive ScriptFault where
  | unclosed (mark : Char)
  | unexpected (token : String)
  | unexpectedEnd
  deriving DecidableEq, Repr

namespace ScriptFault

def message : ScriptFault → String
  | unclosed mark => "unexpected EOF while looking for matching \x60" ++ mark.toString ++ "'"
  | unexpected token => "syntax error near unexpected token \x60" ++ token ++ "'"
  | unexpectedEnd => "syntax error: unexpected end of file"

end ScriptFault

end LiterateTest.Shell
