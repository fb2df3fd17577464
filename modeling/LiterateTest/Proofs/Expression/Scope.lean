import LiterateTest.Expression.Program

/-! The variables that an evaluation fails for: only free ones, and only such as have no value. -/

namespace LiterateTest.Expression

/-! ## Failures -/

section Results

variable {α β : Type} {missing : String → Prop}

/-- A variable that is not found is one of the missing ones. Any other result will do. -/
def Lacks (missing : String → Prop) : Except Fault α → Prop
  | .error (.unbound name) => missing name
  | _ => True

theorem Lacks.of_unbound {result : Except Fault α} {name : String} (lacks : Lacks missing result)
    (unbound : result = .error (.unbound name)) : missing name := by
  rw [unbound] at lacks
  exact lacks

theorem Lacks.bind {first : Except Fault α} {next : α → Except Fault β}
    (lacks : Lacks missing first) (others : ∀ value, Lacks missing (next value)) :
    Lacks missing (first >>= next) := by
  cases first with
  | ok value => exact others value
  | error fault =>
      cases fault with
      | unbound name => exact lacks
      | _ => trivial

theorem Lacks.map {result : Except Fault α} (lacks : Lacks missing result) (change : α → β) :
    Lacks missing (result.map change) := by
  cases result with
  | ok value => trivial
  | error fault =>
      cases fault with
      | unbound name => exact lacks
      | _ => trivial

theorem Lacks.mono {result : Except Fault α} {more : String → Prop} (lacks : Lacks missing result)
    (fewer : ∀ name, missing name → more name) : Lacks more result := by
  cases result with
  | ok value => trivial
  | error fault =>
      cases fault with
      | unbound name => exact fewer name lacks
      | _ => trivial

/-! ## Operations on values -/

theorem lacks_logicalOperand (op : BinaryOp) (value : Json) :
    Lacks missing (logicalOperand op value) := by
  cases value <;> trivial

theorem lacks_negate (value : Number) : Lacks missing (negate value) := by
  rw [negate]
  split <;> split <;> trivial

theorem lacks_unaryOperation (op : UnaryOp) (value : Json) :
    Lacks missing (unaryOperation op value) := by
  rw [unaryOperation.eq_def]
  split
  · trivial
  · exact lacks_negate _
  · trivial

theorem lacks_exactResult (op : BinaryOp) (left right : Int) :
    Lacks missing (exactResult op left right) := by
  rw [exactResult.eq_def]
  split
  · trivial
  · trivial
  · trivial
  · split <;> trivial
  · split
    · trivial
    · split <;> trivial
  · trivial

theorem lacks_arithmetic (op : BinaryOp) (left right : Json) :
    Lacks missing (arithmetic op left right) := by
  rw [arithmetic.eq_def]
  split
  · split
    · apply Lacks.bind (lacks_exactResult _ _ _)
      intro result
      split <;> trivial
    · rw [floatArithmetic]
      split <;> trivial
  · trivial

theorem lacks_add (left right : Json) : Lacks missing (add left right) := by
  rw [add.eq_def]
  split
  · trivial
  · trivial
  · exact lacks_arithmetic _ _ _

theorem lacks_compareValues (left right : Json) : Lacks missing (compareValues left right) := by
  rw [compareValues.eq_def]
  split
  · split <;> trivial
  · trivial
  · trivial
  · trivial

theorem lacks_membership (needle container : Json) :
    Lacks missing (membership needle container) := by
  rw [membership.eq_def]
  split
  · trivial
  · split <;> trivial
  · trivial

theorem lacks_binaryOperation (op : BinaryOp) (left right : Json) :
    Lacks missing (binaryOperation op left right) := by
  rw [binaryOperation.eq_def]
  split
  · trivial
  · trivial
  · exact (lacks_compareValues _ _).map _
  · exact (lacks_compareValues _ _).map _
  · exact (lacks_compareValues _ _).map _
  · exact (lacks_compareValues _ _).map _
  · exact lacks_membership _ _
  · exact lacks_add _ _
  · exact lacks_arithmetic _ _ _

theorem lacks_field (name : String) (receiver : Json) : Lacks missing (field name receiver) := by
  rw [field.eq_def]
  split
  · split <;> trivial
  · trivial

theorem lacks_subscriptOf (receiver key : Json) : Lacks missing (subscriptOf receiver key) := by
  rw [subscriptOf.eq_def]
  split
  · split
    · trivial
    · split <;> trivial
  · split <;> trivial
  · trivial

/-! ## Functions and methods -/

theorem lacks_size (value : Json) : Lacks missing (size value) := by
  cases value <;> trivial

theorem lacks_toInt (value : Json) : Lacks missing (toInt value) := by
  rw [toInt.eq_def]
  split
  · split <;> trivial
  · split <;> trivial
  · trivial
  · trivial

theorem lacks_toDouble (value : Json) : Lacks missing (toDouble value) := by
  rw [toDouble.eq_def]
  dsimp only
  split <;> trivial

theorem lacks_callFunction (function : String) (arguments : List Json) :
    Lacks missing (callFunction function arguments) := by
  rw [callFunction.eq_def]
  split
  · split
    · exact lacks_size _
    · exact lacks_toInt _
    · exact lacks_toDouble _
    · trivial
    · trivial
    · trivial
  · trivial

theorem lacks_stringArgument (method : String) (arguments : List Json) :
    Lacks missing (stringArgument method arguments) := by
  rw [stringArgument.eq_def]
  split <;> trivial

theorem lacks_matchesPattern (text pattern : String) :
    Lacks missing (matchesPattern text pattern) := by
  rw [matchesPattern]
  split <;> trivial

theorem lacks_stringMethod (text method : String) (arguments : List Json) :
    Lacks missing (stringMethod text method arguments) := by
  rw [stringMethod.eq_def]
  split
  · exact (lacks_stringArgument _ _).bind fun _ => trivial
  · exact (lacks_stringArgument _ _).bind fun _ => trivial
  · exact (lacks_stringArgument _ _).bind fun _ => trivial
  · exact (lacks_stringArgument _ _).bind fun _ => lacks_matchesPattern _ _
  · trivial
  · trivial
  · trivial
  · exact (lacks_stringArgument _ _).bind fun _ => trivial
  · trivial

theorem lacks_callMethod (receiver : Json) (method : String) (arguments : List Json) :
    Lacks missing (callMethod receiver method arguments) := by
  rw [callMethod.eq_def]
  split
  · exact lacks_size _
  · split
    · exact lacks_stringMethod _ _ _
    · rw [listMethod.eq_def]
      split <;> trivial
    · trivial

/-! ## Loops -/

theorem lacks_elements (quantifier : Quantifier) (value : Json) :
    Lacks missing (elements quantifier value) := by
  cases value <;> trivial

theorem lacks_asPredicate (quantifier : Quantifier) (value : Json) :
    Lacks missing (asPredicate quantifier value) := by
  cases value <;> trivial

section Body

variable {body : Json → Except Fault Json} (lacks : ∀ item, Lacks missing (body item))
include lacks

theorem lacks_anyElement (items : List Json) : Lacks missing (anyElement body items) := by
  induction items with
  | nil => trivial
  | cons item rest induction =>
      rw [anyElement]
      refine (lacks item).bind fun value => (lacks_asPredicate _ value).bind fun holds => ?_
      split
      · trivial
      · exact induction

theorem lacks_allElements (items : List Json) : Lacks missing (allElements body items) := by
  induction items with
  | nil => trivial
  | cons item rest induction =>
      rw [allElements]
      refine (lacks item).bind fun value => (lacks_asPredicate _ value).bind fun holds => ?_
      split
      · exact induction
      · trivial

theorem lacks_filterElements (items : List Json) : Lacks missing (filterElements body items) := by
  induction items with
  | nil => trivial
  | cons item rest induction =>
      rw [filterElements]
      refine (lacks item).bind fun value => (lacks_asPredicate _ value).bind fun holds => ?_
      exact induction.bind fun _ => trivial

theorem lacks_mapElements (items : List Json) : Lacks missing (mapElements body items) := by
  induction items with
  | nil => trivial
  | cons item rest induction =>
      rw [mapElements]
      exact (lacks item).bind fun _ => induction.bind fun _ => trivial

theorem lacks_quantify (quantifier : Quantifier) (items : List Json) :
    Lacks missing (quantify quantifier body items) := by
  cases quantifier with
  | any => exact (lacks_anyElement lacks items).map _
  | all => exact (lacks_allElements lacks items).map _
  | filter => exact (lacks_filterElements lacks items).map _
  | map => exact (lacks_mapElements lacks items).map _

end Body

end Results

/-! ## Scopes -/

namespace Scope

theorem get?_bind (scope : Scope) (name other : String) (value : Json) :
    (scope.bind name value).get? other = if name = other then some value else scope.get? other := by
  simp only [get?, bind, Record.get?]
  split <;> rfl

/-- The scope has no value for a variable that is free where the given names are bound. -/
def Misses (scope : Scope) (free : List String) (name : String) : Prop :=
  name ∈ free ∧ scope.get? name = none

end Scope

theorem evaluateIn_binary {op : BinaryOp} (strict : op ≠ .and ∧ op ≠ .or) (scope : Scope)
    (left right : Expr) :
    evaluateIn scope (.binary op left right) =
      (do
        let leftValue ← evaluateIn scope left
        let rightValue ← evaluateIn scope right
        binaryOperation op leftValue rightValue) := by
  rcases strict with ⟨notAnd, notOr⟩
  rw [evaluateIn] <;> assumption

/-! ## Evaluation -/

section Evaluation

variable {α : Type} {scope : Scope} {bound : List String}

theorem Lacks.within {result : Except Fault α} {free more : List String}
    (lacks : Lacks (scope.Misses free) result) (subset : free ⊆ more) :
    Lacks (scope.Misses more) result :=
  lacks.mono fun _ misses => ⟨subset misses.1, misses.2⟩

theorem lacks_reference (known : ∀ name ∈ bound, scope.get? name ≠ none) (name : String) :
    Lacks (scope.Misses (freeVariables bound (.reference name))) (scope.lookup name) := by
  rw [Scope.lookup]
  split
  · trivial
  · next none =>
      refine ⟨?_, none⟩
      rw [freeVariables, if_neg]
      · exact List.mem_singleton_self name
      · exact fun isBound => known name (List.contains_iff_mem.mp isBound) none

theorem known_bind (known : ∀ name ∈ bound, scope.get? name ≠ none) (loopVariable : String)
    (item : Json) :
    ∀ name ∈ loopVariable :: bound, (scope.bind loopVariable item).get? name ≠ none := by
  intro name member
  rw [Scope.get?_bind]
  split
  · exact Option.some_ne_none item
  · next other =>
      rcases List.mem_cons.mp member with same | member
      · exact absurd same.symm other
      · exact known name member

/-- What the body of a loop misses is not the loop's own variable, so that it is missed outside of
the loop as well. -/
theorem Lacks.of_bind {result : Except Fault α} {loopVariable : String} {item : Json}
    {free : List String}
    (lacks : Lacks ((scope.bind loopVariable item).Misses free) result) :
    Lacks (scope.Misses free) result := by
  apply lacks.mono
  rintro name ⟨isFree, none⟩
  rw [Scope.get?_bind] at none
  split at none
  · cases none
  · exact ⟨isFree, none⟩

theorem lacks_binary {op : BinaryOp} {left right : Expr} {missing : String → Prop}
    (first : Lacks missing (evaluateIn scope left))
    (second : Lacks missing (evaluateIn scope right)) :
    Lacks missing (evaluateIn scope (.binary op left right)) := by
  by_cases logical : op = .and ∨ op = .or
  · rcases logical with rfl | rfl <;> rw [evaluateIn]
    · refine first.bind fun value => (lacks_logicalOperand _ value).bind fun holds => ?_
      split
      · exact second.bind fun value => (lacks_logicalOperand _ value).bind fun _ => trivial
      · trivial
    · refine first.bind fun value => (lacks_logicalOperand _ value).bind fun holds => ?_
      split
      · trivial
      · exact second.bind fun value => (lacks_logicalOperand _ value).bind fun _ => trivial
  · rw [evaluateIn_binary (not_or.mp logical)]
    exact first.bind fun _ => second.bind fun _ => lacks_binaryOperation _ _ _

theorem lacks_conditional {condition whenTrue whenFalse : Expr} {missing : String → Prop}
    (first : Lacks missing (evaluateIn scope condition))
    (second : Lacks missing (evaluateIn scope whenTrue))
    (third : Lacks missing (evaluateIn scope whenFalse)) :
    Lacks missing (evaluateIn scope (.conditional condition whenTrue whenFalse)) := by
  rw [evaluateIn]
  refine first.bind fun value => ?_
  split
  · exact second
  · exact third
  · trivial

end Evaluation

-- By recursion over the expression. The names that the walk over it takes to be bound always have
-- values in the scope, which is what a loop keeps by adding its variable to both.
mutual
theorem lacks_evaluateIn {scope : Scope} {bound : List String}
    (known : ∀ name ∈ bound, scope.get? name ≠ none) :
    ∀ expr, Lacks (scope.Misses (freeVariables bound expr)) (evaluateIn scope expr)
  | .literal _ => trivial
  | .reference name => by
      rw [evaluateIn]
      exact lacks_reference known name
  | .list items => by
      rw [evaluateIn, freeVariables]
      exact (lacks_evaluateItems known items).bind fun _ => trivial
  | .map entries => by
      rw [evaluateIn, freeVariables]
      exact (lacks_evaluateEntries known [] entries).bind fun _ => trivial
  | .member target field => by
      rw [evaluateIn, freeVariables]
      exact (lacks_evaluateIn known target).bind fun _ => lacks_field _ _
  | .index target key => by
      have first := lacks_evaluateIn known target
      have second := lacks_evaluateIn known key
      rw [evaluateIn, freeVariables]
      exact (first.within (by simp)).bind fun _ =>
        (second.within (by simp)).bind fun _ => lacks_subscriptOf _ _
  | .call function arguments => by
      rw [evaluateIn, freeVariables]
      split
      · exact lacks_evaluateHas known arguments
      · exact (lacks_evaluateItems known arguments).bind fun _ => lacks_callFunction _ _
  | .method target name arguments => by
      have first := lacks_evaluateIn known target
      have second := lacks_evaluateItems known arguments
      rw [evaluateIn, freeVariables]
      exact (first.within (by simp)).bind fun _ =>
        (second.within (by simp)).bind fun _ => lacks_callMethod _ _ _
  | .quantified target quantifier loopVariable body => by
      have first := lacks_evaluateIn known target
      have inside := fun item => lacks_evaluateIn (known_bind known loopVariable item) body
      rw [evaluateIn, freeVariables]
      refine (first.within (by simp)).bind fun value => ?_
      refine (lacks_elements _ value).bind fun items => ?_
      exact lacks_quantify (fun item => (inside item).of_bind.within (by simp)) _ _
  | .unary op operand => by
      rw [evaluateIn, freeVariables]
      exact (lacks_evaluateIn known operand).bind fun _ => lacks_unaryOperation _ _
  | .binary op left right => by
      have first := lacks_evaluateIn known left
      have second := lacks_evaluateIn known right
      rw [freeVariables]
      exact lacks_binary (first.within (by simp)) (second.within (by simp))
  | .conditional condition whenTrue whenFalse => by
      have first := lacks_evaluateIn known condition
      have second := lacks_evaluateIn known whenTrue
      have third := lacks_evaluateIn known whenFalse
      rw [freeVariables]
      exact lacks_conditional (first.within (by simp)) (second.within (by simp))
        (third.within (by simp))

theorem lacks_evaluateItems {scope : Scope} {bound : List String}
    (known : ∀ name ∈ bound, scope.get? name ≠ none) :
    ∀ items, Lacks (scope.Misses (freeInItems bound items)) (evaluateItems scope items)
  | [] => trivial
  | item :: rest => by
      have first := lacks_evaluateIn known item
      have others := lacks_evaluateItems known rest
      rw [evaluateItems, freeInItems]
      exact (first.within (by simp)).bind fun _ => (others.within (by simp)).bind fun _ => trivial

theorem lacks_evaluateEntries {scope : Scope} {bound : List String}
    (known : ∀ name ∈ bound, scope.get? name ≠ none) (record : Record Json) :
    ∀ entries, Lacks (scope.Misses (freeInEntries bound entries))
      (evaluateEntries scope record entries)
  | [] => trivial
  | (key, value) :: rest => by
      have first := lacks_evaluateIn known key
      have second := lacks_evaluateIn known value
      have others := fun record => lacks_evaluateEntries known record rest
      rw [evaluateEntries, freeInEntries]
      exact (first.within (by simp)).bind fun _ => (second.within (by simp)).bind fun _ =>
        (others _).within (by simp)

theorem lacks_evaluateHas {scope : Scope} {bound : List String}
    (known : ∀ name ∈ bound, scope.get? name ≠ none) :
    ∀ arguments, Lacks (scope.Misses (freeInItems bound arguments)) (evaluateHas scope arguments)
  | [] => trivial
  | first :: _ :: _ => by cases first <;> trivial
  | [argument] => by
      cases argument with
      | member target name =>
          have receiver := lacks_evaluateIn known target
          rw [evaluateHas, freeInItems, freeVariables]
          exact (receiver.within (by simp)).bind fun _ => trivial
      | _ => trivial
end

theorem Fault.eq_unbound_of_message {fault : Fault} {name : String}
    (same : fault.message = (Fault.unbound name).message) : fault = .unbound name := by
  rw [Fault.message.eq_def, Fault.message.eq_def] at same
  have chars := congrArg String.toList same
  cases fault with
  | unbound other =>
      dsimp only at same
      rw [(String.append_right_inj _).mp same]
  | _ =>
      dsimp only at chars
      simp at chars

/-! ## Programs -/

section Programs

variable {schema : Schema} {source : String} {program : Program} {bindings : Record Json}
  {name : String}

theorem parse_ne_unbound : parse source ≠ .error (.unbound name) := by
  intro failed
  rw [parse, lexemes] at failed
  split at failed
  · next found isFound =>
      simp only [Bind.bind, Except.bind] at failed
      split at failed <;> cases failed
  · cases failed

theorem compile_ne_unbound : compile schema source ≠ .error (.unbound name) := by
  intro failed
  rw [compile] at failed
  cases parsed : parse source with
  | error fault =>
      rw [parsed] at failed
      cases failed
      exact parse_ne_unbound parsed
  | ok expr =>
      simp only [parsed, Bind.bind, Except.bind] at failed
      split at failed <;> cases failed

theorem admits_of_compile (ok : compile schema source = .ok program)
    (isFree : name ∈ freeVariables [] program.expr) : schema.admits name = true := by
  rw [compile] at ok
  cases parsed : parse source with
  | error fault =>
      rw [parsed] at ok
      cases ok
  | ok expr =>
      simp only [parsed, Bind.bind, Except.bind] at ok
      split at ok
      · cases ok
      · next admitted =>
          cases ok
          rw [undeclared?, List.find?_eq_none] at admitted
          simpa using admitted name isFree

theorem missing_of_run (unbound : program.run bindings = .error (.unbound name)) :
    name ∈ freeVariables [] program.expr ∧ Record.get? name bindings = none := by
  have none : ∀ name ∈ ([] : List String), Scope.get? ⟨[], bindings⟩ name ≠ none := by
    simp
  exact (lacks_evaluateIn none program.expr).of_unbound unbound

theorem run_ne_unbound {allowed : List String}
    (haveValues : ∀ name ∈ allowed, Record.get? name bindings ≠ none)
    (ok : compile (.names allowed) source = .ok program) :
    program.run bindings ≠ .error (.unbound name) := by
  intro unbound
  rcases missing_of_run unbound with ⟨isFree, none⟩
  have isAllowed : name ∈ allowed := List.contains_iff_mem.mp (admits_of_compile ok isFree)
  exact haveValues name isAllowed none

theorem get?_ne_none_of_mem_keys (isKey : name ∈ Record.keys bindings) :
    Record.get? name bindings ≠ none := by
  induction bindings with
  | nil => cases isKey
  | cons entry rest induction =>
      rcases entry with ⟨found, value⟩
      rw [Record.get?]
      split
      · exact Option.some_ne_none value
      · next other =>
          rcases List.mem_cons.mp isKey with same | isKey
          · exact absurd same.symm other
          · exact induction isKey

end Programs

end LiterateTest.Expression
