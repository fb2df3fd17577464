import LiterateTest.Expression.Basic
import LiterateTest.Json.Printer

/-! The outline of an expression: each operation with its parts in parentheses. -/

namespace LiterateTest.Expr

def parenthesized (parts : List String) : String :=
  "(" ++ String.intercalate " " parts ++ ")"

mutual
def outline : Expr → String
  | literal value => value.render
  | reference name => name
  | list items => parenthesized ("list" :: outlineItems items)
  | map entries => parenthesized ("map" :: outlineEntries entries)
  | member target field => parenthesized ["member", outline target, field]
  | index target key => parenthesized ["index", outline target, outline key]
  | call function arguments => parenthesized ("call" :: function :: outlineItems arguments)
  | method target name arguments =>
      parenthesized ("method" :: outline target :: name :: outlineItems arguments)
  | quantified target quantifier loopVariable body =>
      parenthesized [quantifier.name, outline target, loopVariable, outline body]
  | unary op operand => parenthesized [op.name, outline operand]
  | binary op left right => parenthesized [op.name, outline left, outline right]
  | conditional condition whenTrue whenFalse =>
      parenthesized ["if", outline condition, outline whenTrue, outline whenFalse]

def outlineItems : List Expr → List String
  | [] => []
  | item :: rest => outline item :: outlineItems rest

def outlineEntries : List (Expr × Expr) → List String
  | [] => []
  | (key, value) :: rest => parenthesized [outline key, outline value] :: outlineEntries rest
end

end LiterateTest.Expr
