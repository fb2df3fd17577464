import LiterateTest.Expression.Parser

/-! The grammar of expressions: which tokens stand for which expression, and how much nesting has
to be allowed for them. -/

namespace LiterateTest.Expression

/-! ## Levels -/

/-- The levels whose operators are read in chains, tightest first. -/
inductive Level where
  | product | sum | relation | conjunction | disjunction
  deriving DecidableEq

namespace Level

def operator? : Level → Token → Option BinaryOp
  | product => productOperator?
  | sum => sumOperator?
  | relation => relation?
  | conjunction => andOperator?
  | disjunction => orOperator?

def tighter? : Level → Option Level
  | product => none
  | sum => some product
  | relation => some sum
  | conjunction => some relation
  | disjunction => some conjunction

def rank : Level → Nat
  | product => 2
  | sum => 3
  | relation => 4
  | conjunction => 5
  | disjunction => 6

theorem rank_of_tighter {level tighter : Level} (isTighter : level.tighter? = some tighter) :
    level.rank = tighter.rank + 1 := by
  cases level <;> cases isTighter <;> rfl

theorem eq_product_of_none {level : Level} (tightest : level.tighter? = none) :
    level = product := by
  cases level <;> first | rfl | cases tightest

end Level

section Readers

variable (inner : Nat → Reader Expr)

def Level.readOperand : Level → Nat → Reader Expr
  | product => Expression.unary inner
  | sum => Expression.product inner
  | relation => Expression.sum inner
  | conjunction => Expression.relation inner
  | disjunction => Expression.conjunction inner

def Level.readChain (level : Level) : Nat → Reader Expr :=
  chain level.operator? (level.readOperand inner)

theorem Level.readOperand_of_tighter {level tighter : Level}
    (isTighter : level.tighter? = some tighter) :
    level.readOperand inner = tighter.readChain inner := by
  cases level <;> cases isTighter <;> rfl

end Readers

namespace Token

/-- How loosely a token ties what follows it to what stands before it. Tokens that tie nothing
come last. -/
def rank : Token → Nat
  | leftParen => 0
  | dot | leftBracket => 1
  | star | slash | percent => 2
  | plus | minus => 3
  | equal | notEqual | less | lessEqual | greater | greaterEqual | inWord => 4
  | andAnd => 5
  | orOr => 6
  | question => 7
  | _ => 8

def opens : Token → Bool
  | leftParen | leftBracket | leftBrace => true
  | _ => false

def closes : Token → Bool
  | rightParen | rightBracket | rightBrace => true
  | _ => false

def literal? : Token → Option Expr
  | int value => some (literalInt value)
  | float value => (Number.ofFloat? value).map fun number => .literal (.number number)
  | string value => some (.literal (.string value))
  | trueWord => some (.literal (.bool true))
  | falseWord => some (.literal (.bool false))
  | nullWord => some (.literal .null)
  | _ => none

theorem literal?_int (value : Fin (2 ^ 63)) : (int value).literal? = some (literalInt value) := rfl

end Token

theorem Level.rank_of_operator? {level : Level} {token : Token} {op : BinaryOp}
    (found : level.operator? token = some op) : token.rank = level.rank := by
  cases level <;> cases token <;> first | rfl | cases found

theorem Level.operator?_eq_none {level : Level} {token : Token} (looser : level.rank < token.rank) :
    level.operator? token = none := by
  cases found : level.operator? token with
  | none => rfl
  | some op =>
      have same := rank_of_operator? found
      omega

/-! ## Phrases -/

inductive Phrase where
  | primary (expr : Expr)
  /-- A primary expression with so many selections and subscripts behind it. -/
  | postfixed (length : Nat) (expr : Expr)
  | unary (expr : Expr)
  /-- An operand in a chain of the level. -/
  | operand (level : Level) (expr : Expr)
  /-- A chain with so many operators. -/
  | chain (level : Level) (length : Nat) (expr : Expr)
  | expression (expr : Expr)
  /-- Expressions between commas, at least one. -/
  | items (items : List Expr)
  /-- Expressions between commas. -/
  | arguments (items : List Expr)
  /-- Entries of a map between commas, at least one. -/
  | pairs (pairs : List (Expr × Expr))
  /-- Entries of a map between commas. -/
  | entries (pairs : List (Expr × Expr))

namespace Phrase

def rank : Phrase → Nat
  | primary _ => 0
  | postfixed _ _ | unary _ => 1
  | operand level _ => level.rank - 1
  | chain level _ _ => level.rank
  | expression _ => 7
  | items _ | arguments _ | pairs _ | entries _ => 8

def isPlain : Phrase → Bool
  | primary _ | postfixed _ _ => true
  | _ => false

end Phrase

/-- Tokens that stand for a phrase, and the nesting that has to be allowed for it. -/
inductive Derives : Phrase → List Token → (nesting : Nat) → Prop
  | literal {token : Token} {expr : Expr} (found : token.literal? = some expr) :
      Derives (.primary expr) [token] 0
  | reference (name : String) : Derives (.primary (.reference name)) [.word name] 0
  | call {name : String} {items : List Expr} {inside : List Token} {nesting : Nat}
      (arguments : Derives (.arguments items) inside nesting) :
      Derives (.primary (.call name items))
        (.word name :: .leftParen :: (inside ++ [.rightParen])) nesting
  | group {expr : Expr} {inside : List Token} {nesting : Nat}
      (expression : Derives (.expression expr) inside nesting) :
      Derives (.primary expr) (.leftParen :: (inside ++ [.rightParen])) nesting
  | list {items : List Expr} {inside : List Token} {nesting : Nat}
      (arguments : Derives (.arguments items) inside nesting) :
      Derives (.primary (.list items)) (.leftBracket :: (inside ++ [.rightBracket])) nesting
  | map {pairs : List (Expr × Expr)} {inside : List Token} {nesting : Nat}
      (entries : Derives (.entries pairs) inside nesting) :
      Derives (.primary (.map pairs)) (.leftBrace :: (inside ++ [.rightBrace])) nesting
  | bare {expr : Expr} {tokens : List Token} {nesting : Nat}
      (primary : Derives (.primary expr) tokens nesting) :
      Derives (.postfixed 0 expr) tokens nesting
  | member {length : Nat} {target : Expr} {before : List Token} {nesting : Nat} (name : String)
      (postfixed : Derives (.postfixed length target) before nesting) :
      Derives (.postfixed (length + 1) (.member target name)) (before ++ [.dot, .word name])
        (max nesting (length + 1))
  | method {length : Nat} {target : Expr} {before inside : List Token} {nesting within : Nat}
      {name : String} {items : List Expr} (plain : Quantifier.ofMethod? name = none)
      (postfixed : Derives (.postfixed length target) before nesting)
      (arguments : Derives (.arguments items) inside within) :
      Derives (.postfixed (length + 1) (.method target name items))
        (before ++ .dot :: .word name :: .leftParen :: (inside ++ [.rightParen]))
        (max nesting (within + length + 1))
  | quantified {length : Nat} {target body : Expr} {before inside : List Token}
      {nesting within : Nat} {name : String} {quantifier : Quantifier} (loopVariable : String)
      (isQuantifier : Quantifier.ofMethod? name = some quantifier)
      (postfixed : Derives (.postfixed length target) before nesting)
      (expression : Derives (.expression body) inside within) :
      Derives (.postfixed (length + 1) (.quantified target quantifier loopVariable body))
        (before ++ .dot :: .word name :: .leftParen :: .word loopVariable :: .comma ::
          (inside ++ [.rightParen]))
        (max nesting (within + length + 1))
  | index {length : Nat} {target key : Expr} {before inside : List Token} {nesting within : Nat}
      (postfixed : Derives (.postfixed length target) before nesting)
      (expression : Derives (.expression key) inside within) :
      Derives (.postfixed (length + 1) (.index target key))
        (before ++ .leftBracket :: (inside ++ [.rightBracket])) (max nesting (within + length + 1))
  | plain {length : Nat} {expr : Expr} {tokens : List Token} {nesting : Nat}
      (postfixed : Derives (.postfixed length expr) tokens nesting) :
      Derives (.unary expr) tokens nesting
  | unary {token : Token} {op : UnaryOp} {expr : Expr} {tokens : List Token} {nesting : Nat}
      (isOp : unaryOperator? token = some op) (operand : Derives (.unary expr) tokens nesting) :
      Derives (.unary (.unary op expr)) (token :: tokens) (nesting + 1)
  | factor {expr : Expr} {tokens : List Token} {nesting : Nat}
      (unary : Derives (.unary expr) tokens nesting) :
      Derives (.operand .product expr) tokens nesting
  | tighter {level tighter : Level} {length : Nat} {expr : Expr} {tokens : List Token}
      {nesting : Nat} (isTighter : level.tighter? = some tighter)
      (chain : Derives (.chain tighter length expr) tokens nesting) :
      Derives (.operand level expr) tokens nesting
  | first {level : Level} {expr : Expr} {tokens : List Token} {nesting : Nat}
      (operand : Derives (.operand level expr) tokens nesting) :
      Derives (.chain level 0 expr) tokens nesting
  | binary {level : Level} {length : Nat} {left right : Expr} {before after : List Token}
      {nesting within : Nat} {token : Token} {op : BinaryOp}
      (isOp : level.operator? token = some op)
      (chain : Derives (.chain level length left) before nesting)
      (operand : Derives (.operand level right) after within) :
      Derives (.chain level (length + 1) (.binary op left right)) (before ++ token :: after)
        (max nesting (within + length + 1))
  | unconditional {length : Nat} {expr : Expr} {tokens : List Token} {nesting : Nat}
      (chain : Derives (.chain .disjunction length expr) tokens nesting) :
      Derives (.expression expr) tokens (nesting + 1)
  | conditional {conditionLength trueLength : Nat} {condition whenTrue whenFalse : Expr}
      {before between after : List Token} {nesting trueNesting falseNesting : Nat}
      (conditionChain : Derives (.chain .disjunction conditionLength condition) before nesting)
      (trueChain : Derives (.chain .disjunction trueLength whenTrue) between trueNesting)
      (expression : Derives (.expression whenFalse) after falseNesting) :
      Derives (.expression (.conditional condition whenTrue whenFalse))
        (before ++ .question :: (between ++ .colon :: after))
        (max nesting (max trueNesting falseNesting) + 1)
  | lastItem {expr : Expr} {tokens : List Token} {nesting : Nat}
      (expression : Derives (.expression expr) tokens nesting) :
      Derives (.items [expr]) tokens nesting
  | moreItems {expr : Expr} {rest : List Expr} {before after : List Token}
      {nesting within : Nat} (expression : Derives (.expression expr) before nesting)
      (items : Derives (.items rest) after within) :
      Derives (.items (expr :: rest)) (before ++ .comma :: after) (max nesting within)
  | noArguments : Derives (.arguments []) [] 0
  | someArguments {items : List Expr} {tokens : List Token} {nesting : Nat}
      (nonempty : Derives (.items items) tokens nesting) :
      Derives (.arguments items) tokens nesting
  | lastPair {key value : Expr} {before after : List Token} {nesting within : Nat}
      (keyExpression : Derives (.expression key) before nesting)
      (valueExpression : Derives (.expression value) after within) :
      Derives (.pairs [(key, value)]) (before ++ .colon :: after) (max nesting within)
  | morePairs {key value : Expr} {rest : List (Expr × Expr)} {before between after : List Token}
      {nesting within others : Nat}
      (keyExpression : Derives (.expression key) before nesting)
      (valueExpression : Derives (.expression value) between within)
      (pairs : Derives (.pairs rest) after others) :
      Derives (.pairs ((key, value) :: rest))
        (before ++ .colon :: (between ++ .comma :: after)) (max nesting (max within others))
  | noEntries : Derives (.entries []) [] 0
  | someEntries {pairs : List (Expr × Expr)} {tokens : List Token} {nesting : Nat}
      (nonempty : Derives (.pairs pairs) tokens nesting) :
      Derives (.entries pairs) tokens nesting

/-! ## First tokens -/

theorem closes_of_literal? {token : Token} {expr : Expr} (found : token.literal? = some expr) :
    token.closes = false := by
  cases token <;> first | rfl | cases found

theorem closes_of_unaryOperator? {token : Token} {op : UnaryOp}
    (found : unaryOperator? token = some op) : token.closes = false := by
  cases token <;> first | rfl | cases found

def Starts (tokens : List Token) : Prop :=
  ∃ first rest, tokens = first :: rest ∧ first.closes = false

theorem Starts.append {tokens : List Token} (starts : Starts tokens) (more : List Token) :
    Starts (tokens ++ more) := by
  rcases starts with ⟨first, rest, rfl, opening⟩
  exact ⟨first, rest ++ more, rfl, opening⟩

theorem Derives.starts {phrase : Phrase} {tokens : List Token} {nesting : Nat}
    (derives : Derives phrase tokens nesting) :
    Starts tokens ∨ phrase = .arguments [] ∨ phrase = .entries [] := by
  induction derives with
  | literal found => exact .inl ⟨_, _, rfl, closes_of_literal? found⟩
  | unary isOp _ _ => exact .inl ⟨_, _, rfl, closes_of_unaryOperator? isOp⟩
  | reference | call | group | list | map => exact .inl ⟨_, _, rfl, rfl⟩
  | noArguments => exact .inr (.inl rfl)
  | noEntries => exact .inr (.inr rfl)
  | someArguments _ induction | someEntries _ induction =>
      left
      simpa using induction
  | bare _ induction | plain _ induction | factor _ induction | tighter _ _ induction
  | first _ induction | unconditional _ induction | lastItem _ induction =>
      left
      simpa using induction
  | member _ _ induction | method _ _ _ induction | quantified _ _ _ _ induction
  | index _ _ induction | binary _ _ _ induction | conditional _ _ _ induction
  | moreItems _ _ induction | lastPair _ _ induction | morePairs _ _ _ induction =>
      left
      exact Starts.append (by simpa using induction) _

theorem unaryOperator?_of_literal? {token : Token} {expr : Expr}
    (found : token.literal? = some expr) : unaryOperator? token = none := by
  cases token <;> first | rfl | cases found

theorem Derives.unsigned {phrase : Phrase} {tokens : List Token} {nesting : Nat}
    (derives : Derives phrase tokens nesting) (isPlain : phrase.isPlain = true) :
    ∃ first rest, tokens = first :: rest ∧ unaryOperator? first = none := by
  induction derives with
  | literal found => exact ⟨_, _, rfl, unaryOperator?_of_literal? found⟩
  | reference | call | group | list | map => exact ⟨_, _, rfl, rfl⟩
  | bare _ induction => exact induction rfl
  | member _ _ induction | method _ _ _ induction | quantified _ _ _ _ induction
  | index _ _ induction =>
      rcases induction rfl with ⟨first, rest, rfl, unsigned⟩
      exact ⟨first, _, rfl, unsigned⟩
  | _ => cases isPlain

/-! ## Last tokens -/

def EndsWhole (tokens : List Token) : Prop :=
  ∃ before last, tokens = before ++ [last] ∧ last ≠ .colon

theorem EndsWhole.append {tokens : List Token} (ends : EndsWhole tokens) (before : List Token) :
    EndsWhole (before ++ tokens) := by
  rcases ends with ⟨others, last, rfl, noColon⟩
  exact ⟨before ++ others, last, by simp, noColon⟩

theorem EndsWhole.cons {tokens : List Token} (ends : EndsWhole tokens) (token : Token) :
    EndsWhole (token :: tokens) :=
  ends.append [token]

theorem endsWhole_single {token : Token} (noColon : token ≠ .colon) : EndsWhole [token] :=
  ⟨[], token, rfl, noColon⟩

theorem ne_colon_of_literal? {token : Token} {expr : Expr} (found : token.literal? = some expr) :
    token ≠ .colon := by
  rintro rfl
  cases found

theorem Derives.endsWhole {phrase : Phrase} {tokens : List Token} {nesting : Nat}
    (derives : Derives phrase tokens nesting) :
    EndsWhole tokens ∨ phrase = .arguments [] ∨ phrase = .entries [] := by
  have closer {token : Token} (closes : token.closes = true) : EndsWhole [token] := by
    apply endsWhole_single
    rintro rfl
    cases closes
  induction derives with
  | literal found => exact .inl (endsWhole_single (ne_colon_of_literal? found))
  | reference => exact .inl (endsWhole_single Token.noConfusion)
  | call => exact .inl ((((closer rfl).append _).cons _).cons _)
  | group | list | map => exact .inl (((closer rfl).append _).cons _)
  | noArguments => exact .inr (.inl rfl)
  | noEntries => exact .inr (.inr rfl)
  | someArguments _ induction | someEntries _ induction =>
      left
      simpa using induction
  | bare _ induction | plain _ induction | factor _ induction | tighter _ _ induction
  | first _ induction | unconditional _ induction | lastItem _ induction =>
      left
      simpa using induction
  | member => exact .inl (((endsWhole_single Token.noConfusion).cons _).append _)
  | index => exact .inl ((((closer rfl).append _).cons _).append _)
  | method => exact .inl ((((((closer rfl).append _).cons _).cons _).cons _).append _)
  | quantified =>
      exact .inl ((((((((closer rfl).append _).cons _).cons _).cons _).cons _).cons _).append _)
  | unary _ _ induction => exact .inl (EndsWhole.cons (by simpa using induction) _)
  | binary _ _ _ _ induction | moreItems _ _ _ induction | lastPair _ _ _ induction =>
      exact .inl ((EndsWhole.cons (by simpa using induction) _).append _)
  | conditional _ _ _ _ _ induction | morePairs _ _ _ _ _ induction =>
      exact .inl ((((EndsWhole.cons (by simpa using induction) _).append _).cons _).append _)

end LiterateTest.Expression
