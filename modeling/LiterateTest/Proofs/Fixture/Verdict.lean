import LiterateTest.Fixture.Verdict
import LiterateTest.Proofs.Expression.Scope
import LiterateTest.Proofs.Expression.Soundness

/-! What the expressions of fixtures can be reported to fail for. -/

namespace LiterateTest

open Expression

namespace ExpressionOutcome

/-- Whether an outcome says that the expression failed with the fault, when it was compiled or when
it was evaluated. -/
def Reports (outcome : ExpressionOutcome) (expression : String) (fault : Expression.Fault) :
    Prop :=
  outcome = .errored ("invalid expression " ++ Text.quoted expression ++ ": " ++ fault.message) ∨
    outcome = .errored ("evaluating " ++ Text.quoted expression ++ " failed: " ++ fault.message)

end ExpressionOutcome

theorem not_reports_ofValue (expression : String) (value : Json) (fault : Expression.Fault) :
    ¬(ExpressionOutcome.ofValue expression value).Reports expression fault := by
  rw [ExpressionOutcome.Reports, ExpressionOutcome.ofValue.eq_def]
  rintro (same | same)
  all_goals
    split at same
    · cases same
    · cases same
    · split at same <;> cases same
    · have chars := congrArg String.toList (ExpressionOutcome.errored.inj same)
      simp at chars

theorem evaluateExpression_of_evaluateSource {expression : String} {bindings : Record Json}
    {value : Json} (ok : evaluateSource bindings expression = .ok value) :
    evaluateExpression expression bindings = .ofValue expression value := by
  rw [evaluateSource] at ok
  rcases ok_of_bind ok with ⟨program, compiled, result⟩
  rw [evaluateExpression, compiled]
  dsimp only
  rw [result]

theorem exists_of_passed {expression : String} {bindings : Record Json}
    (passed : evaluateExpression expression bindings = .passed) :
    ∃ value, evaluateSource bindings expression = .ok value ∧
      ExpressionOutcome.ofValue expression value = .passed := by
  rw [evaluateExpression] at passed
  split at passed
  · cases passed
  · next program compiled =>
      split at passed
      · next value result =>
          refine ⟨value, ?_, passed⟩
          rw [evaluateSource, compiled]
          exact result
      · cases passed

theorem passed_ofValue {expression : String} {value : Json}
    (passed : ExpressionOutcome.ofValue expression value = .passed) (other : String) :
    ExpressionOutcome.ofValue other value = .passed := by
  rw [ExpressionOutcome.ofValue.eq_def] at passed ⊢
  split at passed
  · rfl
  · cases passed
  · split at passed
    · next isWord => exact if_pos isWord
    · cases passed
  · cases passed

theorem passed_ofValue_bool_iff {expression : String} {holds : Bool} :
    ExpressionOutcome.ofValue expression (.bool holds) = .passed ↔ holds = true := by
  cases holds <;> simp [ExpressionOutcome.ofValue]

theorem unbound_of_reports {expression : String} {bindings : Record Json} {name : String}
    (reports : (evaluateExpression expression bindings).Reports expression (.unbound name)) :
    compile (Schema.ofBindings bindings) expression = .error (.unbound name) ∨
      ∃ program, compile (Schema.ofBindings bindings) expression = .ok program ∧
        program.run bindings = .error (.unbound name) := by
  rw [ExpressionOutcome.Reports, evaluateExpression] at reports
  split at reports
  · next fault failed =>
      left
      rw [failed]
      rcases reports with same | same
      · rw [ExpressionOutcome.errored.injEq, String.append_right_inj] at same
        rw [Expression.Fault.eq_unbound_of_message same]
      · have chars := congrArg String.toList (ExpressionOutcome.errored.inj same)
        simp at chars
  · next program ok =>
      right
      refine ⟨program, ok, ?_⟩
      split at reports
      · next value isValue =>
          exact absurd reports (not_reports_ofValue expression value _)
      · next fault failed =>
          rw [failed]
          rcases reports with same | same
          · have chars := congrArg String.toList (ExpressionOutcome.errored.inj same)
            simp at chars
          · rw [ExpressionOutcome.errored.injEq, String.append_right_inj] at same
            rw [Expression.Fault.eq_unbound_of_message same]

/-- What is compiled for names that have values never asks for a variable in vain, however its
loops are nested and whatever their variables hide. An expression that is compiled for the bindings
that it is evaluated with is never said to do so. -/
theorem compile_scoped :
    (∀ (source : String) (allowed : List String) (bindings : Record Json) (program : Program),
      (∀ name ∈ allowed, Record.get? name bindings ≠ none) →
        compile (.names allowed) source = .ok program →
          ∀ name, program.run bindings ≠ .error (.unbound name)) ∧
    ∀ (expression : String) (bindings : Record Json) (name : String),
      ¬(evaluateExpression expression bindings).Reports expression (.unbound name) := by
  constructor
  · intro source allowed bindings program haveValues ok name
    exact run_ne_unbound haveValues ok
  · intro expression bindings name reports
    have haveValues : ∀ name ∈ Record.keys bindings, Record.get? name bindings ≠ none :=
      fun name isKey => get?_ne_none_of_mem_keys isKey
    rcases unbound_of_reports reports with failed | ⟨program, ok, failed⟩
    · exact compile_ne_unbound failed
    · exact run_ne_unbound haveValues ok failed

theorem compile_scoped_of_shadowing :
    let bindings : Record Json := [("limit", .string "b"),
      ("row", .list [.list [.string "a", .string "b"], .list [.string "b"]])]
    (∀ name ∈ ["limit", "row"], Record.get? name bindings ≠ none) ∧
    ∃ program,
      compile (.names ["limit", "row"]) "row.all(row, row.exists(row, row == limit))" =
        .ok program ∧
      (∀ name, program.run bindings ≠ .error (.unbound name)) ∧
      program.run bindings = .ok (.bool true) := by
  intro bindings
  have haveValues : ∀ name ∈ ["limit", "row"], Record.get? name bindings ≠ none := by
    intro name member
    rcases List.mem_cons.mp member with rfl | member
    · exact Option.some_ne_none _
    · cases List.mem_singleton.mp member
      exact Option.some_ne_none _
  refine ⟨haveValues, _, rfl, ?_, rfl⟩
  exact compile_scoped.1 "row.all(row, row.exists(row, row == limit))" _ _ _ haveValues rfl

end LiterateTest
