import LiterateTest.Expression.Basic
import LiterateTest.Expression.Lexer

/-! Tokens to expressions, by one reader for each level of precedence, loosest first: the
conditional, `||`, `&&`, relations, sums, products, unary operators, and what follows a
primary expression.

A reader is given a budget of nesting. Each level of brackets, each unary operator, and each
further operator of a chain takes one from it, for what stands to the right of it. -/

namespace LiterateTest.Expression

inductive ParseFault where
  | tooDeep
  | trailingToken (token : Token)
  | unexpectedToken (token : Token)
  | endOfExpression
  | infiniteLiteral
  | missingColon
  | missingField
  | missingBracket
  | missingParen
  | missingLoopVariable (method : String)
  | missingLoopComma
  | missingSeparator (close : Token)
  | missingEntryColon
  | missingEntrySeparator
  deriving DecidableEq

namespace ParseFault

def message : ParseFault → String
  | tooDeep => "expression nested too deeply"
  | trailingToken token => "unexpected trailing token " ++ token.describe
  | unexpectedToken token => "unexpected token " ++ token.describe
  | endOfExpression => "unexpected end of expression"
  | infiniteLiteral => "non-finite float literal"
  | missingColon => "expected ':' in conditional"
  | missingField => "expected field or method name after '.'"
  | missingBracket => "expected ']'"
  | missingParen => "expected ')'"
  | missingLoopVariable method => method ++ "() expects a loop variable"
  | missingLoopComma => "expected ',' after loop variable"
  | missingSeparator close => "expected ',' or " ++ close.describe
  | missingEntryColon => "expected ':' in map literal"
  | missingEntrySeparator => "expected ',' or '\x7d' in map literal"

end ParseFault

/-- A fault is reported at the first of the lexemes that are still unread. -/
structure ParseFailure where
  fault : ParseFault
  unread : List Lexeme

abbrev Reader (α : Type) := List Lexeme → Except ParseFailure (α × List Lexeme)

def nextToken? (lexemes : List Lexeme) : Option Token :=
  lexemes.head?.map Lexeme.token

def expect (token : Token) (fault : ParseFault) (lexemes : List Lexeme) :
    Except ParseFailure (List Lexeme) :=
  if nextToken? lexemes = some token then .ok (lexemes.drop 1)
  else .error ⟨fault, lexemes⟩

/-! ## Operators in chains -/

def orOperator? : Token → Option BinaryOp
  | .orOr => some .or
  | _ => none

def andOperator? : Token → Option BinaryOp
  | .andAnd => some .and
  | _ => none

def relation? : Token → Option BinaryOp
  | .equal => some .equal
  | .notEqual => some .notEqual
  | .less => some .less
  | .lessEqual => some .lessEqual
  | .greater => some .greater
  | .greaterEqual => some .greaterEqual
  | .inWord => some .member
  | _ => none

def sumOperator? : Token → Option BinaryOp
  | .plus => some .add
  | .minus => some .sub
  | _ => none

def productOperator? : Token → Option BinaryOp
  | .star => some .mul
  | .slash => some .div
  | .percent => some .rem
  | _ => none

def unaryOperator? : Token → Option UnaryOp
  | .bang => some .not
  | .minus => some .neg
  | _ => none

def chainRest (operator? : Token → Option BinaryOp) (operand : Nat → Reader Expr) :
    (budget : Nat) → (left : Expr) → Reader Expr
  | budget, left, lexemes =>
      match (nextToken? lexemes).bind operator? with
      | none => .ok (left, lexemes)
      | some op =>
          match budget with
          | 0 => .error ⟨.tooDeep, lexemes.drop 1⟩
          | budget + 1 => do
              let (right, rest) ← operand budget (lexemes.drop 1)
              chainRest operator? operand budget (.binary op left right) rest

def chain (operator? : Token → Option BinaryOp) (operand : Nat → Reader Expr)
    (budget : Nat) : Reader Expr := fun lexemes => do
  let (left, rest) ← operand budget lexemes
  chainRest operator? operand budget left rest

/-! ## Lists in brackets

`inner` reads a whole expression. It takes a lexeme or fails, so one step more than there are
lexemes suffices, and it is `inner` that meets the end of the source. -/

def argumentsRest (inner : Reader Expr) (close : Token) : (steps : Nat) → Reader (List Expr)
  | 0, lexemes => .error ⟨.endOfExpression, lexemes⟩
  | steps + 1, lexemes => do
      let (item, rest) ← inner lexemes
      if nextToken? rest = some .comma then
        let (items, rest) ← argumentsRest inner close steps (rest.drop 1)
        .ok (item :: items, rest)
      else if nextToken? rest = some close then
        .ok ([item], rest.drop 1)
      else
        .error ⟨.missingSeparator close, rest⟩

def arguments (inner : Reader Expr) (close : Token) : Reader (List Expr) := fun lexemes =>
  if nextToken? lexemes = some close then .ok ([], lexemes.drop 1)
  else argumentsRest inner close (lexemes.length + 1) lexemes

def entriesRest (inner : Reader Expr) : (steps : Nat) → Reader (List (Expr × Expr))
  | 0, lexemes => .error ⟨.endOfExpression, lexemes⟩
  | steps + 1, lexemes => do
      let (key, rest) ← inner lexemes
      let rest ← expect .colon .missingEntryColon rest
      let (value, rest) ← inner rest
      if nextToken? rest = some .comma then
        let (entries, rest) ← entriesRest inner steps (rest.drop 1)
        .ok ((key, value) :: entries, rest)
      else if nextToken? rest = some .rightBrace then
        .ok ([(key, value)], rest.drop 1)
      else
        .error ⟨.missingEntrySeparator, rest⟩

def entries (inner : Reader Expr) : Reader (List (Expr × Expr)) := fun lexemes =>
  if nextToken? lexemes = some .rightBrace then .ok ([], lexemes.drop 1)
  else entriesRest inner (lexemes.length + 1) lexemes

/-! ## Primary expressions -/

def literalFloat (value : Float) (unread : List Lexeme) : Except ParseFailure Expr :=
  match Number.ofFloat? value with
  | some number => .ok (.literal (.number number))
  | none => .error ⟨.infiniteLiteral, unread⟩

def literalInt (value : Fin (2 ^ 63)) : Expr :=
  .literal (.number (.int value.val (by have := value.isLt; omega)))

def primary (inner : Reader Expr) : Reader Expr
  | [] => .error ⟨.endOfExpression, []⟩
  | lexeme :: rest =>
      match lexeme.token with
      | .int value => .ok (literalInt value, rest)
      | .float value => do return (← literalFloat value rest, rest)
      | .string value => .ok (.literal (.string value), rest)
      | .trueWord => .ok (.literal (.bool true), rest)
      | .falseWord => .ok (.literal (.bool false), rest)
      | .nullWord => .ok (.literal .null, rest)
      | .word name =>
          if nextToken? rest = some .leftParen then do
            let (items, rest) ← arguments inner .rightParen (rest.drop 1)
            .ok (.call name items, rest)
          else .ok (.reference name, rest)
      | .leftParen => do
          let (inside, rest) ← inner rest
          let rest ← expect .rightParen .missingParen rest
          .ok (inside, rest)
      | .leftBracket => do
          let (items, rest) ← arguments inner .rightBracket rest
          .ok (.list items, rest)
      | .leftBrace => do
          let (pairs, rest) ← entries inner rest
          .ok (.map pairs, rest)
      | other => .error ⟨.unexpectedToken other, lexeme :: rest⟩

/-! ## What follows a primary expression -/

def loopBody (inner : Reader Expr) (method : String) : Reader (String × Expr)
  | ⟨.word loopVariable, _⟩ :: rest => do
      let rest ← expect .comma .missingLoopComma rest
      let (body, rest) ← inner rest
      let rest ← expect .rightParen .missingParen rest
      .ok ((loopVariable, body), rest)
  | lexemes => .error ⟨.missingLoopVariable method, lexemes⟩

def methodCall (inner : Reader Expr) (target : Expr) (name : String) : Reader Expr :=
  fun lexemes =>
    match Quantifier.ofMethod? name with
    | some quantifier => do
        let ((loopVariable, body), rest) ← loopBody inner name lexemes
        .ok (.quantified target quantifier loopVariable body, rest)
    | none => do
        let (items, rest) ← arguments inner .rightParen lexemes
        .ok (.method target name items, rest)

def selection (inner : Reader Expr) (target : Expr) : Reader Expr
  | ⟨.word name, _⟩ :: rest =>
      if nextToken? rest = some .leftParen then methodCall inner target name (rest.drop 1)
      else .ok (.member target name, rest)
  | lexemes => .error ⟨.missingField, lexemes⟩

def subscript (inner : Reader Expr) (target : Expr) : Reader Expr := fun lexemes => do
  let (key, rest) ← inner lexemes
  let rest ← expect .rightBracket .missingBracket rest
  .ok (.index target key, rest)

def postfixReader? : Option Token → Option (Reader Expr → Expr → Reader Expr)
  | some .dot => some selection
  | some .leftBracket => some subscript
  | _ => none

def postfixRest (inner : Nat → Reader Expr) : (budget : Nat) → (target : Expr) → Reader Expr
  | budget, target, lexemes =>
      match postfixReader? (nextToken? lexemes) with
      | none => .ok (target, lexemes)
      | some reader =>
          match budget with
          | 0 => .error ⟨.tooDeep, lexemes.drop 1⟩
          | budget + 1 => do
              let (longer, rest) ← reader (inner budget) target (lexemes.drop 1)
              postfixRest inner budget longer rest

def postfixed (inner : Nat → Reader Expr) (budget : Nat) : Reader Expr := fun lexemes => do
  let (target, rest) ← primary (inner budget) lexemes
  postfixRest inner budget target rest

/-! ## The levels -/

def unary (inner : Nat → Reader Expr) : (budget : Nat) → Reader Expr
  | budget, lexemes =>
      match (nextToken? lexemes).bind unaryOperator? with
      | none => postfixed inner budget lexemes
      | some op =>
          match budget with
          | 0 => .error ⟨.tooDeep, lexemes.drop 1⟩
          | budget + 1 => do
              let (operand, rest) ← unary inner budget (lexemes.drop 1)
              .ok (.unary op operand, rest)

def product (inner : Nat → Reader Expr) : Nat → Reader Expr :=
  chain productOperator? (unary inner)

def sum (inner : Nat → Reader Expr) : Nat → Reader Expr :=
  chain sumOperator? (product inner)

def relation (inner : Nat → Reader Expr) : Nat → Reader Expr :=
  chain relation? (sum inner)

def conjunction (inner : Nat → Reader Expr) : Nat → Reader Expr :=
  chain andOperator? (relation inner)

def disjunction (inner : Nat → Reader Expr) : Nat → Reader Expr :=
  chain orOperator? (conjunction inner)

def conditional (inner : Nat → Reader Expr) (budget : Nat) : Reader Expr := fun lexemes => do
  let (condition, rest) ← disjunction inner budget lexemes
  if nextToken? rest = some .question then
    let (whenTrue, rest) ← disjunction inner budget (rest.drop 1)
    let rest ← expect .colon .missingColon rest
    let (whenFalse, rest) ← inner budget rest
    .ok (.conditional condition whenTrue whenFalse, rest)
  else .ok (condition, rest)

/-- Reads an expression with a budget. `levels` bounds how often expressions are read inside
expressions; as each level takes from the budget, a bound as large as the budget is never
reached. -/
def expressionWithin : (levels budget : Nat) → Reader Expr
  | 0, _, lexemes => .error ⟨.tooDeep, lexemes⟩
  | _ + 1, 0, lexemes => .error ⟨.tooDeep, lexemes⟩
  | levels + 1, budget + 1, lexemes => conditional (expressionWithin levels) budget lexemes

def maxDepth : Nat := 256

def expression : Reader Expr := expressionWithin maxDepth maxDepth

/-! ## Whole sources -/

def parseLexemes (lexemes : List Lexeme) : Except ParseFailure Expr := do
  let (expr, rest) ← expression lexemes
  match rest with
  | [] => .ok expr
  | extra :: _ => .error ⟨.trailingToken extra.token, rest⟩

def ParseFailure.offset (failure : ParseFailure) (sourceLength : Nat) : Nat :=
  match failure.unread with
  | [] => sourceLength
  | lexeme :: _ => lexeme.offset

end LiterateTest.Expression
