import LiterateTest.Expression.Parser

/-! What the readers leave unread. Each goes forward through the lexemes it is given, whether it
reads something or fails, so that a fault is reported at one of them or at their end. -/

namespace LiterateTest.Expression

section

variable {α β : Type} {lexemes : List Lexeme}

/-- Whether what an outcome leaves unread is an end of the lexemes. -/
def LeavesEnd (lexemes : List Lexeme) : Except ParseFailure (α × List Lexeme) → Prop
  | .ok (_, rest) => rest <:+ lexemes
  | .error failure => failure.unread <:+ lexemes

theorem LeavesEnd.mono {rest : List Lexeme} {outcome : Except ParseFailure (α × List Lexeme)}
    (leaves : LeavesEnd rest outcome) (isEnd : rest <:+ lexemes) : LeavesEnd lexemes outcome := by
  cases outcome with
  | error failure => exact List.IsSuffix.trans leaves isEnd
  | ok found => exact List.IsSuffix.trans leaves isEnd

theorem LeavesEnd.bind {first : Except ParseFailure (α × List Lexeme)}
    {next : α × List Lexeme → Except ParseFailure (β × List Lexeme)}
    (leaves : LeavesEnd lexemes first)
    (goesOn : ∀ value rest, rest <:+ lexemes → LeavesEnd lexemes (next (value, rest))) :
    LeavesEnd lexemes (first >>= next) := by
  cases first with
  | error failure => exact leaves
  | ok found => exact goesOn found.1 found.2 leaves

theorem leavesEnd_expect {token : Token} {fault : ParseFault} {rest : List Lexeme}
    {next : List Lexeme → Except ParseFailure (β × List Lexeme)} (isEnd : rest <:+ lexemes)
    (goesOn : ∀ after, after <:+ lexemes → LeavesEnd lexemes (next after)) :
    LeavesEnd lexemes (expect token fault rest >>= next) := by
  rw [expect]
  split
  · exact goesOn _ ((List.drop_suffix 1 rest).trans isEnd)
  · exact isEnd

def KeepsEnd (reader : Reader α) : Prop := ∀ lexemes, LeavesEnd lexemes (reader lexemes)

theorem KeepsEnd.after {reader : Reader α} (keeps : KeepsEnd reader) {rest : List Lexeme}
    (isEnd : rest <:+ lexemes) : LeavesEnd lexemes (reader rest) :=
  (keeps rest).mono isEnd

theorem drop_one_suffix {rest : List Lexeme} (isEnd : rest <:+ lexemes) :
    rest.drop 1 <:+ lexemes :=
  (List.drop_suffix 1 rest).trans isEnd

end

theorem eq_of_literalFloat_error {value : Float} {rest : List Lexeme} {failure : ParseFailure}
    (failed : literalFloat value rest = .error failure) : failure = ⟨.infiniteLiteral, rest⟩ := by
  rw [literalFloat] at failed
  split at failed
  · cases failed
  · cases failed
    rfl

/-! ## Lists in brackets -/

section

variable {inner : Reader Expr} (keeps : KeepsEnd inner)

include keeps

theorem keepsEnd_argumentsRest (close : Token) (steps : Nat) :
    KeepsEnd (argumentsRest inner close steps) := by
  induction steps with
  | zero => exact fun lexemes => List.suffix_rfl
  | succ steps induction =>
      intro lexemes
      refine (keeps lexemes).bind fun item rest isEnd => ?_
      dsimp only
      split
      · refine (induction.after (drop_one_suffix isEnd)).bind fun items rest isEnd => ?_
        exact isEnd
      · split
        · exact drop_one_suffix isEnd
        · exact isEnd

theorem keepsEnd_arguments (close : Token) : KeepsEnd (arguments inner close) := by
  intro lexemes
  rw [arguments]
  split
  · exact List.drop_suffix 1 lexemes
  · exact keepsEnd_argumentsRest keeps close _ lexemes

theorem keepsEnd_entriesRest (steps : Nat) : KeepsEnd (entriesRest inner steps) := by
  induction steps with
  | zero => exact fun lexemes => List.suffix_rfl
  | succ steps induction =>
      intro lexemes
      refine (keeps lexemes).bind fun key rest isEnd => ?_
      refine leavesEnd_expect isEnd fun rest isEnd => ?_
      refine (keeps.after isEnd).bind fun value rest isEnd => ?_
      dsimp only
      split
      · refine (induction.after (drop_one_suffix isEnd)).bind fun entries rest isEnd => ?_
        exact isEnd
      · split
        · exact drop_one_suffix isEnd
        · exact isEnd

theorem keepsEnd_entries : KeepsEnd (entries inner) := by
  intro lexemes
  rw [entries]
  split
  · exact List.drop_suffix 1 lexemes
  · exact keepsEnd_entriesRest keeps _ lexemes

/-! ## Primary expressions and what follows them -/

theorem keepsEnd_primary : KeepsEnd (primary inner) := by
  intro lexemes
  cases lexemes with
  | nil =>
      rw [primary]
      exact List.suffix_rfl
  | cons lexeme rest =>
      have isEnd : rest <:+ lexeme :: rest := List.suffix_cons lexeme rest
      rw [primary]
      cases token : lexeme.token with
      | int value | string text | trueWord | falseWord | nullWord => exact isEnd
      | float value =>
          dsimp only
          cases found : literalFloat value rest with
          | error failure =>
              cases eq_of_literalFloat_error found
              exact isEnd
          | ok expr => exact isEnd
      | word name =>
          dsimp only
          split
          · refine ((keepsEnd_arguments keeps _).after (drop_one_suffix isEnd)).bind ?_
            exact fun items rest isEnd => isEnd
          · exact isEnd
      | leftParen =>
          refine (keeps.after isEnd).bind fun inside rest isEnd => ?_
          exact leavesEnd_expect isEnd fun rest isEnd => isEnd
      | leftBracket =>
          exact ((keepsEnd_arguments keeps _).after isEnd).bind fun items rest isEnd => isEnd
      | leftBrace =>
          exact ((keepsEnd_entries keeps).after isEnd).bind fun pairs rest isEnd => isEnd
      | _ => exact List.suffix_rfl

theorem keepsEnd_loopBody (method : String) : KeepsEnd (loopBody inner method) := by
  intro lexemes
  rw [loopBody.eq_def]
  split
  · refine leavesEnd_expect (List.suffix_cons _ _) fun rest isEnd => ?_
    refine (keeps.after isEnd).bind fun body rest isEnd => ?_
    exact leavesEnd_expect isEnd fun rest isEnd => isEnd
  · exact List.suffix_rfl

theorem keepsEnd_methodCall (target : Expr) (name : String) :
    KeepsEnd (methodCall inner target name) := by
  intro lexemes
  rw [methodCall]
  split
  · exact (keepsEnd_loopBody keeps name lexemes).bind fun body rest isEnd => isEnd
  · exact (keepsEnd_arguments keeps _ lexemes).bind fun items rest isEnd => isEnd

theorem keepsEnd_selection (target : Expr) : KeepsEnd (selection inner target) := by
  intro lexemes
  rw [selection.eq_def]
  split
  · split
    · exact (keepsEnd_methodCall keeps target _).after (drop_one_suffix (List.suffix_cons _ _))
    · exact List.suffix_cons _ _
  · exact List.suffix_rfl

theorem keepsEnd_subscript (target : Expr) : KeepsEnd (subscript inner target) := by
  intro lexemes
  refine (keeps lexemes).bind fun key rest isEnd => ?_
  exact leavesEnd_expect isEnd fun rest isEnd => isEnd

theorem keepsEnd_postfixReader? {token : Option Token} {reader : Reader Expr → Expr → Reader Expr}
    (found : postfixReader? token = some reader) (target : Expr) :
    KeepsEnd (reader inner target) := by
  rw [postfixReader?.eq_def] at found
  split at found
  · cases found
    exact keepsEnd_selection keeps target
  · cases found
    exact keepsEnd_subscript keeps target
  · cases found

end

/-! ## The levels -/

section

variable {inner : Nat → Reader Expr} (keeps : ∀ budget, KeepsEnd (inner budget))

include keeps

theorem keepsEnd_postfixRest (budget : Nat) (target : Expr) :
    KeepsEnd (postfixRest inner budget target) := by
  induction budget generalizing target with
  | zero =>
      intro lexemes
      rw [postfixRest]
      split
      · exact List.suffix_rfl
      · exact List.drop_suffix 1 lexemes
  | succ budget induction =>
      intro lexemes
      rw [postfixRest]
      split
      · exact List.suffix_rfl
      · next found =>
          have reads := keepsEnd_postfixReader? (keeps budget) found target
          refine (reads.after (List.drop_suffix 1 lexemes)).bind fun longer rest isEnd => ?_
          exact (induction longer).after isEnd

theorem keepsEnd_postfixed (budget : Nat) : KeepsEnd (postfixed inner budget) := by
  intro lexemes
  refine (keepsEnd_primary (keeps budget) lexemes).bind fun target rest isEnd => ?_
  exact (keepsEnd_postfixRest keeps budget target).after isEnd

theorem keepsEnd_unary (budget : Nat) : KeepsEnd (unary inner budget) := by
  induction budget with
  | zero =>
      intro lexemes
      rw [unary]
      split
      · exact keepsEnd_postfixed keeps 0 lexemes
      · exact List.drop_suffix 1 lexemes
  | succ budget induction =>
      intro lexemes
      rw [unary]
      split
      · exact keepsEnd_postfixed keeps (budget + 1) lexemes
      · refine (induction.after (List.drop_suffix 1 lexemes)).bind fun operand rest isEnd => ?_
        exact isEnd

end

section

variable {operator? : Token → Option BinaryOp} {operand : Nat → Reader Expr}
  (keeps : ∀ budget, KeepsEnd (operand budget))

include keeps

theorem keepsEnd_chainRest (budget : Nat) (left : Expr) :
    KeepsEnd (chainRest operator? operand budget left) := by
  induction budget generalizing left with
  | zero =>
      intro lexemes
      rw [chainRest]
      split
      · exact List.suffix_rfl
      · exact List.drop_suffix 1 lexemes
  | succ budget induction =>
      intro lexemes
      rw [chainRest]
      split
      · exact List.suffix_rfl
      · refine ((keeps budget).after (List.drop_suffix 1 lexemes)).bind fun right rest isEnd => ?_
        exact (induction _).after isEnd

theorem keepsEnd_chain (budget : Nat) : KeepsEnd (chain operator? operand budget) := by
  intro lexemes
  refine (keeps budget lexemes).bind fun left rest isEnd => ?_
  exact (keepsEnd_chainRest keeps budget left).after isEnd

end

theorem keepsEnd_disjunction {inner : Nat → Reader Expr}
    (keeps : ∀ budget, KeepsEnd (inner budget)) (budget : Nat) :
    KeepsEnd (disjunction inner budget) := by
  have products := @keepsEnd_chain productOperator? _ (keepsEnd_unary keeps)
  have sums := @keepsEnd_chain sumOperator? _ products
  have relations := @keepsEnd_chain relation? _ sums
  have conjunctions := @keepsEnd_chain andOperator? _ relations
  exact keepsEnd_chain conjunctions budget

theorem keepsEnd_conditional {inner : Nat → Reader Expr}
    (keeps : ∀ budget, KeepsEnd (inner budget)) (budget : Nat) :
    KeepsEnd (conditional inner budget) := by
  intro lexemes
  refine (keepsEnd_disjunction keeps budget lexemes).bind fun condition rest isEnd => ?_
  dsimp only
  split
  · refine ((keepsEnd_disjunction keeps budget).after (drop_one_suffix isEnd)).bind ?_
    intro whenTrue rest isEnd
    refine leavesEnd_expect isEnd fun rest isEnd => ?_
    exact ((keeps budget).after isEnd).bind fun whenFalse rest isEnd => isEnd
  · exact isEnd

theorem keepsEnd_expressionWithin (levels budget : Nat) :
    KeepsEnd (expressionWithin levels budget) := by
  induction levels generalizing budget with
  | zero => exact fun lexemes => List.suffix_rfl
  | succ levels induction =>
      cases budget with
      | zero => exact fun lexemes => List.suffix_rfl
      | succ budget => exact keepsEnd_conditional induction budget

/-! ## Whole sources -/

theorem unread_suffix {lexemes : List Lexeme} {failure : ParseFailure}
    (failed : parseLexemes lexemes = .error failure) : failure.unread <:+ lexemes := by
  have leaves := keepsEnd_expressionWithin maxDepth maxDepth lexemes
  rw [parseLexemes, expression] at failed
  cases found : expressionWithin maxDepth maxDepth lexemes with
  | error other =>
      rw [found] at failed leaves
      cases failed
      exact leaves
  | ok result =>
      rcases result with ⟨expr, rest⟩
      rw [found] at failed leaves
      cases rest with
      | nil => cases failed
      | cons extra others =>
          cases failed
          exact leaves

theorem offset_cases {lexemes : List Lexeme} {failure : ParseFailure}
    (failed : parseLexemes lexemes = .error failure) (sourceLength : Nat) :
    failure.offset sourceLength = sourceLength ∨
      ∃ lexeme ∈ lexemes, failure.offset sourceLength = lexeme.offset := by
  have isEnd := unread_suffix failed
  rw [ParseFailure.offset.eq_def]
  split
  · exact .inl rfl
  · next lexeme others unread =>
      rw [unread] at isEnd
      exact .inr ⟨lexeme, isEnd.subset List.mem_cons_self, rfl⟩

end LiterateTest.Expression
