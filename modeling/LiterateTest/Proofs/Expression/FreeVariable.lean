import LiterateTest.Proofs.Expression.Scope

/-! The variables that an evaluation depends on. Scopes that have the same values for the free
variables of an expression give it the same outcome, be it a value or a fault. -/

namespace LiterateTest.Expression

/-! ## Scopes that agree -/

namespace Scope

variable {scope other : Scope} {names : List String}

/-- Whether two scopes have the same values for some variables, or no values. -/
def AgreeOn (scope other : Scope) (names : List String) : Prop :=
  ∀ name ∈ names, scope.get? name = other.get? name

theorem AgreeOn.mono {fewer : List String} (agree : scope.AgreeOn other names)
    (subset : fewer ⊆ names) : scope.AgreeOn other fewer :=
  fun name member => agree name (subset member)

theorem AgreeOn.bind (agree : scope.AgreeOn other names) (name : String) (value : Json) :
    (scope.bind name value).AgreeOn (other.bind name value) (name :: names) := by
  intro found member
  rw [get?_bind, get?_bind]
  split
  · rfl
  · next different =>
      rcases List.mem_cons.mp member with same | member
      · exact absurd same.symm different
      · exact agree found member

end Scope

/-! ## Parts and wholes -/

section Congruence

variable {scope other : Scope}

theorem evaluateIn_binary_congr {left right otherLeft otherRight : Expr} (op : BinaryOp)
    (sameLeft : evaluateIn scope left = evaluateIn other otherLeft)
    (sameRight : evaluateIn scope right = evaluateIn other otherRight) :
    evaluateIn scope (.binary op left right) =
      evaluateIn other (.binary op otherLeft otherRight) := by
  by_cases logical : op = .and ∨ op = .or
  · rcases logical with rfl | rfl
    · rw [evaluateIn, evaluateIn, sameLeft, sameRight]
    · rw [evaluateIn, evaluateIn, sameLeft, sameRight]
  · rw [evaluateIn_binary (not_or.mp logical), evaluateIn_binary (not_or.mp logical), sameLeft,
      sameRight]

theorem evaluateIn_quantified_congr {target otherTarget body otherBody : Expr}
    {loopVariable otherVariable : String} (quantifier : Quantifier)
    (sameTarget : evaluateIn scope target = evaluateIn other otherTarget)
    (sameBody : ∀ item, evaluateIn (scope.bind loopVariable item) body =
      evaluateIn (other.bind otherVariable item) otherBody) :
    evaluateIn scope (.quantified target quantifier loopVariable body) =
      evaluateIn other (.quantified otherTarget quantifier otherVariable otherBody) := by
  rw [evaluateIn, evaluateIn, sameTarget, funext sameBody]

theorem evaluateIn_call_congr {arguments others : List Expr} (function : String)
    (sameValues : evaluateItems scope arguments = evaluateItems other others)
    (sameFields : evaluateHas scope arguments = evaluateHas other others) :
    evaluateIn scope (.call function arguments) = evaluateIn other (.call function others) := by
  rw [evaluateIn, evaluateIn, sameValues, sameFields]

end Congruence

/-! ## Free variables -/

-- By recursion over the expression. A loop adds its variable to the bound ones, and the scopes
-- inside of it agree on that variable too.
mutual
theorem evaluateIn_eq_of_agreeOn {scope other : Scope} {bound : List String}
    (known : scope.AgreeOn other bound) :
    ∀ expr, scope.AgreeOn other (freeVariables bound expr) →
      evaluateIn scope expr = evaluateIn other expr
  | .literal _, _ => by rw [evaluateIn, evaluateIn]
  | .reference name, agree => by
      have same : scope.get? name = other.get? name := by
        rw [freeVariables] at agree
        by_cases isBound : bound.contains name = true
        · exact known name (List.contains_iff_mem.mp isBound)
        · rw [if_neg isBound] at agree
          exact agree name (List.mem_singleton_self name)
      rw [evaluateIn, evaluateIn, Scope.lookup, Scope.lookup, same]
  | .list items, agree => by
      rw [freeVariables] at agree
      rw [evaluateIn, evaluateIn, evaluateItems_eq_of_agreeOn known items agree]
  | .map entries, agree => by
      rw [freeVariables] at agree
      rw [evaluateIn, evaluateIn, evaluateEntries_eq_of_agreeOn known [] entries agree]
  | .member target field, agree => by
      rw [freeVariables] at agree
      rw [evaluateIn, evaluateIn, evaluateIn_eq_of_agreeOn known target agree]
  | .index target key, agree => by
      rw [freeVariables] at agree
      rw [evaluateIn, evaluateIn, evaluateIn_eq_of_agreeOn known target (agree.mono (by simp)),
        evaluateIn_eq_of_agreeOn known key (agree.mono (by simp))]
  | .call function arguments, agree => by
      rw [freeVariables] at agree
      exact evaluateIn_call_congr function (evaluateItems_eq_of_agreeOn known arguments agree)
        (evaluateHas_eq_of_agreeOn known arguments agree)
  | .method target name arguments, agree => by
      rw [freeVariables] at agree
      rw [evaluateIn, evaluateIn, evaluateIn_eq_of_agreeOn known target (agree.mono (by simp)),
        evaluateItems_eq_of_agreeOn known arguments (agree.mono (by simp))]
  | .quantified target quantifier loopVariable body, agree => by
      rw [freeVariables] at agree
      apply evaluateIn_quantified_congr
      · exact evaluateIn_eq_of_agreeOn known target (agree.mono (by simp))
      · intro item
        apply evaluateIn_eq_of_agreeOn (known.bind loopVariable item) body
        have inside := (agree.mono (List.subset_append_right _ _)).bind loopVariable item
        exact inside.mono (List.subset_cons_self _ _)
  | .unary op operand, agree => by
      rw [freeVariables] at agree
      rw [evaluateIn, evaluateIn, evaluateIn_eq_of_agreeOn known operand agree]
  | .binary op left right, agree => by
      rw [freeVariables] at agree
      exact evaluateIn_binary_congr op
        (evaluateIn_eq_of_agreeOn known left (agree.mono (by simp)))
        (evaluateIn_eq_of_agreeOn known right (agree.mono (by simp)))
  | .conditional condition whenTrue whenFalse, agree => by
      rw [freeVariables] at agree
      rw [evaluateIn, evaluateIn, evaluateIn_eq_of_agreeOn known condition (agree.mono (by simp)),
        evaluateIn_eq_of_agreeOn known whenTrue (agree.mono (by simp)),
        evaluateIn_eq_of_agreeOn known whenFalse (agree.mono (by simp))]

theorem evaluateItems_eq_of_agreeOn {scope other : Scope} {bound : List String}
    (known : scope.AgreeOn other bound) :
    ∀ items, scope.AgreeOn other (freeInItems bound items) →
      evaluateItems scope items = evaluateItems other items
  | [], _ => rfl
  | item :: rest, agree => by
      rw [freeInItems] at agree
      rw [evaluateItems, evaluateItems, evaluateIn_eq_of_agreeOn known item (agree.mono (by simp)),
        evaluateItems_eq_of_agreeOn known rest (agree.mono (by simp))]

theorem evaluateEntries_eq_of_agreeOn {scope other : Scope} {bound : List String}
    (known : scope.AgreeOn other bound) (record : Record Json) :
    ∀ entries, scope.AgreeOn other (freeInEntries bound entries) →
      evaluateEntries scope record entries = evaluateEntries other record entries
  | [], _ => rfl
  | (key, value) :: rest, agree => by
      rw [freeInEntries] at agree
      have others := fun record =>
        evaluateEntries_eq_of_agreeOn known record rest (agree.mono (by simp))
      rw [evaluateEntries, evaluateEntries,
        evaluateIn_eq_of_agreeOn known key (agree.mono (by simp)),
        evaluateIn_eq_of_agreeOn known value (agree.mono (by simp))]
      simp only [others]

theorem evaluateHas_eq_of_agreeOn {scope other : Scope} {bound : List String}
    (known : scope.AgreeOn other bound) :
    ∀ arguments, scope.AgreeOn other (freeInItems bound arguments) →
      evaluateHas scope arguments = evaluateHas other arguments
  | [], _ => rfl
  | first :: _ :: _, _ => by cases first <;> rfl
  | [argument], agree => by
      cases argument with
      | member target name =>
          rw [freeInItems, freeVariables] at agree
          rw [evaluateHas, evaluateHas,
            evaluateIn_eq_of_agreeOn known target (agree.mono (by simp))]
      | _ => rfl
end

theorem evaluate_eq_of_agree {bindings other : Record Json} {expr : Expr}
    (agree : ∀ name ∈ freeVariables [] expr, Record.get? name bindings = Record.get? name other) :
    evaluate bindings expr = evaluate other expr := by
  have nothing : Scope.AgreeOn ⟨[], bindings⟩ ⟨[], other⟩ [] := fun _ member => nomatch member
  exact evaluateIn_eq_of_agreeOn nothing expr agree

end LiterateTest.Expression
