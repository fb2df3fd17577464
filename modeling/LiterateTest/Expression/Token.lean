import LiterateTest.Number.Layout
import LiterateTest.Text.Quoted

/-! The tokens of the expression language. -/

namespace LiterateTest.Expression

/-- An integer token fits in 64 bits with a sign; a minus before it is a token of its own. -/
inductive Token where
  | int (value : Fin (2 ^ 63))
  | float (value : Float)
  | string (value : String)
  | word (name : String)
  | trueWord | falseWord | nullWord | inWord
  | leftParen | rightParen | leftBracket | rightBracket | leftBrace | rightBrace
  | dot | comma | colon | question
  | bang | plus | minus | star | slash | percent
  | equal | notEqual | less | lessEqual | greater | greaterEqual
  | andAnd | orOr
  deriving DecidableEq

namespace Token

def describe : Token → String
  | int value => "Int(" ++ toString value.val ++ ")"
  | float value => "Float(" ++ FloatLayout.diagnostic.render value ++ ")"
  | string value => "Str(" ++ Text.quoted value ++ ")"
  | word name => "Ident(" ++ Text.quoted name ++ ")"
  | trueWord => "True"
  | falseWord => "False"
  | nullWord => "Null"
  | inWord => "In"
  | leftParen => "LParen"
  | rightParen => "RParen"
  | leftBracket => "LBracket"
  | rightBracket => "RBracket"
  | leftBrace => "LBrace"
  | rightBrace => "RBrace"
  | dot => "Dot"
  | comma => "Comma"
  | colon => "Colon"
  | question => "Question"
  | bang => "Bang"
  | plus => "Plus"
  | minus => "Minus"
  | star => "Star"
  | slash => "Slash"
  | percent => "Percent"
  | equal => "EqEq"
  | notEqual => "NotEq"
  | less => "Lt"
  | lessEqual => "LtEq"
  | greater => "Gt"
  | greaterEqual => "GtEq"
  | andAnd => "AndAnd"
  | orOr => "OrOr"

def ofWord (name : String) : Token :=
  if name = "true" then trueWord
  else if name = "false" then falseWord
  else if name = "null" then nullWord
  else if name = "in" then inWord
  else word name

end Token

structure Lexeme where
  token : Token
  offset : Nat
  deriving DecidableEq

end LiterateTest.Expression
