import LiterateTest.Fixture.Verdict
import LiterateTest.Proofs.Text

/-! How outputs are judged. A test passes just if its output is all that is expected of it, and only
then there is nothing to say about it. -/

namespace LiterateTest

open Expression

/-! ## Outputs -/

/-- Whether an output is what is expected apart from the expression. A text is compared without the
blanks around it, and an empty text asks for nothing. -/
structure Expectations.MetBy (expected : Expectations) (actual : ProcessOutput) : Prop where
  exitCode : actual.exitCode = expected.exitCode.getD 0
  stdout : expected.stdout ≠ "" → Text.trim actual.stdout = Text.trim expected.stdout
  stderr : expected.stderr ≠ "" → Text.trim actual.stderr = Text.trim expected.stderr
  error : expected.error ≠ "" → expected.error.toList <:+: actual.stderr.toList

section

variable {expected : Expectations} {actual : ProcessOutput}

theorem exitCodeMismatch?_eq_none_iff :
    exitCodeMismatch? expected actual = none ↔ actual.exitCode = expected.exitCode.getD 0 := by
  simp [exitCodeMismatch?, Expectations.requiredExitCode]

theorem textMismatch?_eq_none_iff {stream wanted found : String} :
    textMismatch? stream wanted found = none ↔
      (wanted ≠ "" → Text.trim found = Text.trim wanted) := by
  simp [textMismatch?, Decidable.or_iff_not_imp_left]

theorem errorMismatch?_eq_none_iff :
    errorMismatch? expected actual = none ↔
      (expected.error ≠ "" → expected.error.toList <:+: actual.stderr.toList) := by
  simp [errorMismatch?, Decidable.or_iff_not_imp_left, Text.contains, Text.containsChars_iff_infix]

theorem firstMismatch?_eq_none_iff :
    firstMismatch? expected actual = none ↔ expected.MetBy actual := by
  simp only [firstMismatch?, List.findSome?_eq_none_iff, List.forall_mem_cons, id,
    exitCodeMismatch?_eq_none_iff, textMismatch?_eq_none_iff, errorMismatch?_eq_none_iff]
  constructor
  · rintro ⟨exitCode, stdout, stderr, error, -⟩
    exact ⟨exitCode, stdout, stderr, error⟩
  · rintro ⟨exitCode, stdout, stderr, error⟩
    exact ⟨exitCode, stdout, stderr, error, fun _ absent => nomatch absent⟩

theorem ne_empty_of_textMismatch? {stream wanted found message : String}
    (mismatch : textMismatch? stream wanted found = some message) : message ≠ "" := by
  rw [textMismatch?] at mismatch
  split at mismatch <;> cases mismatch
  simp

theorem ne_empty_of_firstMismatch? {message : String}
    (mismatch : firstMismatch? expected actual = some message) : message ≠ "" := by
  rcases List.exists_of_findSome?_eq_some mismatch with ⟨found, member, same⟩
  change found = some message at same
  subst same
  simp only [List.mem_cons, List.not_mem_nil, or_false] at member
  rcases member with exitCode | stdout | stderr | error
  · rw [exitCodeMismatch?] at exitCode
    split at exitCode <;> cases exitCode
    simp
  · exact ne_empty_of_textMismatch? stdout.symm
  · exact ne_empty_of_textMismatch? stderr.symm
  · rw [errorMismatch?] at error
    split at error <;> cases error
    simp

end

/-! ## Expressions -/

/-- Whether a value says that an expression holds: the true value, and a string that is the word
but for the case of its letters and the blanks around it. -/
def Json.CountsAsTrue : Json → Prop
  | .bool holds => holds = true
  | .string text => Text.lowerAscii (Text.trim text) = "true"
  | _ => False

def Json.IsAnswer : Json → Prop
  | .bool _ | .string _ => True
  | _ => False

theorem Json.CountsAsTrue.isAnswer {value : Json} (counts : value.CountsAsTrue) :
    value.IsAnswer := by
  cases value with
  | bool | string => trivial
  | _ => exact counts

def Holds (names : Record Json) (expression : String) : Prop :=
  ∃ program value, compile (Schema.ofBindings names) expression = .ok program ∧
    program.run names = .ok value ∧ value.CountsAsTrue

/-- Whether it is not known if an expression holds for some names. -/
inductive Undecided (names : Record Json) (expression : String) : Prop
  | uncompiled {fault : Expression.Fault}
      (failed : compile (Schema.ofBindings names) expression = .error fault)
  | unevaluated {program : Program} {fault : Expression.Fault}
      (compiled : compile (Schema.ofBindings names) expression = .ok program)
      (failed : program.run names = .error fault)
  | noAnswer {program : Program} {value : Json}
      (compiled : compile (Schema.ofBindings names) expression = .ok program)
      (result : program.run names = .ok value) (noAnswer : ¬value.IsAnswer)

section

variable {names : Record Json} {expression : String} {program : Program} {value : Json}

theorem holds_iff_of_run (compiled : compile (Schema.ofBindings names) expression = .ok program)
    (result : program.run names = .ok value) :
    Holds names expression ↔ value.CountsAsTrue := by
  constructor
  · rintro ⟨again, other, compiledAgain, resultAgain, counts⟩
    cases compiled.symm.trans compiledAgain
    cases result.symm.trans resultAgain
    exact counts
  · intro counts
    exact ⟨program, value, compiled, result, counts⟩

theorem undecided_iff_of_run
    (compiled : compile (Schema.ofBindings names) expression = .ok program)
    (result : program.run names = .ok value) :
    Undecided names expression ↔ ¬value.IsAnswer := by
  constructor
  · intro undecided
    cases undecided with
    | uncompiled failed => cases compiled.symm.trans failed
    | unevaluated again failed =>
        cases compiled.symm.trans again
        cases result.symm.trans failed
    | noAnswer again other noAnswer =>
        cases compiled.symm.trans again
        cases result.symm.trans other
        exact noAnswer
  · intro noAnswer
    exact .noAnswer compiled result noAnswer

theorem Holds.not_undecided (holds : Holds names expression) : ¬Undecided names expression := by
  rcases holds with ⟨program, value, compiled, result, counts⟩
  rw [undecided_iff_of_run compiled result, not_not]
  exact counts.isAnswer

theorem ofValue_cases (expression : String) (value : Json) :
    (value.CountsAsTrue ∧ ExpressionOutcome.ofValue expression value = .passed) ∨
    (¬value.IsAnswer ∧ ∃ message ≠ "",
      ExpressionOutcome.ofValue expression value = .errored message) ∨
    (¬value.CountsAsTrue ∧ value.IsAnswer ∧ ∃ message ≠ "",
      ExpressionOutcome.ofValue expression value = .failed message) := by
  cases value with
  | bool holds =>
      cases holds with
      | true => exact .inl ⟨rfl, rfl⟩
      | false =>
          right
          right
          refine ⟨Bool.false_ne_true, trivial, _, ?_, rfl⟩
          simp
  | string text =>
      rw [ExpressionOutcome.ofValue]
      by_cases isWord : Text.lowerAscii (Text.trim text) = "true"
      · have equal : Text.equalIgnoringCase (Text.trim text) "true" = true := by
          rw [Text.equalIgnoringCase, isWord]
          rfl
        rw [if_pos equal]
        exact .inl ⟨isWord, rfl⟩
      · have different : ¬Text.equalIgnoringCase (Text.trim text) "true" = true := by
          rw [Text.equalIgnoringCase, beq_iff_eq]
          exact isWord
        rw [if_neg different]
        right
        right
        refine ⟨isWord, trivial, _, ?_, rfl⟩
        simp
  | _ =>
      right
      left
      refine ⟨id, _, ?_, rfl⟩
      simp

theorem evaluateExpression_cases (names : Record Json) (expression : String) :
    (Holds names expression ∧ evaluateExpression expression names = .passed) ∨
    (Undecided names expression ∧ ∃ message ≠ "",
      evaluateExpression expression names = .errored message) ∨
    (¬Holds names expression ∧ ¬Undecided names expression ∧ ∃ message ≠ "",
      evaluateExpression expression names = .failed message) := by
  rw [evaluateExpression]
  cases compiled : compile (Schema.ofBindings names) expression with
  | error fault =>
      right
      left
      refine ⟨.uncompiled compiled, _, ?_, rfl⟩
      simp
  | ok program =>
      dsimp only
      cases result : program.run names with
      | error fault =>
          right
          left
          refine ⟨.unevaluated compiled result, _, ?_, rfl⟩
          simp
      | ok value =>
          rw [holds_iff_of_run compiled result, undecided_iff_of_run compiled result, not_not]
          exact ofValue_cases expression value

end

/-! ## Verdicts -/

namespace Fixture

def requiredExpression (fixture : Fixture) : String := Text.trim fixture.expected.expression

def Accepts (fixture : Fixture) (actual : ProcessOutput) : Prop :=
  fixture.expected.MetBy actual ∧
    (fixture.requiredExpression = "" ∨
      Holds (bindings fixture actual) fixture.requiredExpression)

def LeavesOpen (fixture : Fixture) (actual : ProcessOutput) : Prop :=
  fixture.expected.MetBy actual ∧ fixture.requiredExpression ≠ "" ∧
    Undecided (bindings fixture actual) fixture.requiredExpression

end Fixture

section

variable {fixture : Fixture} {actual : ProcessOutput}

theorem Fixture.Accepts.not_leavesOpen (accepts : fixture.Accepts actual) :
    ¬fixture.LeavesOpen actual := by
  rintro ⟨-, nonempty, undecided⟩
  rcases accepts.2 with empty | holds
  · exact nonempty empty
  · exact holds.not_undecided undecided

theorem judge_cases (fixture : Fixture) (actual : ProcessOutput) :
    (fixture.Accepts actual ∧ judge fixture actual = (.pass, "")) ∨
    (fixture.LeavesOpen actual ∧ ∃ message ≠ "", judge fixture actual = (.error, message)) ∨
    (¬fixture.Accepts actual ∧ ¬fixture.LeavesOpen actual ∧
      ∃ message ≠ "", judge fixture actual = (.fail, message)) := by
  rw [judge]
  cases mismatch : firstMismatch? fixture.expected actual with
  | some message =>
      have notMet : ¬fixture.expected.MetBy actual := by
        rw [← firstMismatch?_eq_none_iff, mismatch]
        exact Option.some_ne_none message
      right
      right
      exact ⟨fun accepts => notMet accepts.1, fun leavesOpen => notMet leavesOpen.1, message,
        ne_empty_of_firstMismatch? mismatch, rfl⟩
  | none =>
      have met : fixture.expected.MetBy actual := firstMismatch?_eq_none_iff.mp mismatch
      have trimmed : Text.trim fixture.expected.expression = fixture.requiredExpression := rfl
      simp only [trimmed, String.isEmpty_iff]
      by_cases empty : fixture.requiredExpression = ""
      · left
        exact ⟨⟨met, .inl empty⟩, if_pos empty⟩
      · rw [if_neg empty]
        rcases evaluateExpression_cases (bindings fixture actual) fixture.requiredExpression with
          ⟨holds, passed⟩ | ⟨undecided, message, nonempty, errored⟩ |
          ⟨notHolds, decided, message, nonempty, failed⟩
        · left
          rw [passed]
          exact ⟨⟨met, .inr holds⟩, rfl⟩
        · right
          left
          rw [errored]
          exact ⟨⟨met, empty, undecided⟩, message, nonempty, rfl⟩
        · right
          right
          rw [failed]
          exact ⟨fun accepts => accepts.2.elim empty notHolds,
            fun leavesOpen => decided leavesOpen.2.2, message, nonempty, rfl⟩

end

/-- Whether a result says of an output what the fixture asks of it, and passes on the output itself
as it is. -/
structure IsVerdict (fixture : Fixture) (actual : ProcessOutput) (result : TestResult) :
    Prop where
  pass_iff : result.status = .pass ↔ fixture.Accepts actual
  error_iff : result.status = .error ↔ fixture.LeavesOpen actual
  fail_of_ne : result.status ≠ .pass → result.status ≠ .error → result.status = .fail
  stdout : result.stdout = actual.stdout
  stderr : result.stderr = actual.stderr
  exitCode : result.exitCode = some actual.exitCode
  duration : result.duration = actual.duration
  message_iff : result.message = "" ↔ result.status = .pass

/-- The verdict on an output is what the fixture declares, and nothing else: whatever the order in
which the checks are made, and whatever the expression gives. -/
theorem isVerdict_verdict (fixture : Fixture) (actual : ProcessOutput) :
    IsVerdict fixture actual (verdict fixture actual) := by
  have status : (verdict fixture actual).status = (judge fixture actual).1 := rfl
  have message : (verdict fixture actual).message = (judge fixture actual).2 := rfl
  have judgement :
      ((verdict fixture actual).status = .pass ↔ fixture.Accepts actual) ∧
      ((verdict fixture actual).status = .error ↔ fixture.LeavesOpen actual) ∧
      ((verdict fixture actual).status ≠ .pass → (verdict fixture actual).status ≠ .error →
        (verdict fixture actual).status = .fail) ∧
      ((verdict fixture actual).message = "" ↔ (verdict fixture actual).status = .pass) := by
    rw [status, message]
    rcases judge_cases fixture actual with ⟨accepts, judged⟩ |
      ⟨leavesOpen, text, nonempty, judged⟩ | ⟨notAccepts, notLeavesOpen, text, nonempty, judged⟩
    · have notLeavesOpen : ¬fixture.LeavesOpen actual := accepts.not_leavesOpen
      simp [judged, accepts, notLeavesOpen]
    · have notAccepts : ¬fixture.Accepts actual := fun accepts =>
        accepts.not_leavesOpen leavesOpen
      simp [judged, notAccepts, leavesOpen, nonempty]
    · simp [judged, notAccepts, notLeavesOpen, nonempty]
  rcases judgement with ⟨pass_iff, error_iff, fail_of_ne, message_iff⟩
  exact { pass_iff, error_iff, fail_of_ne, message_iff,
          stdout := rfl, stderr := rfl, exitCode := rfl, duration := rfl }

end LiterateTest
