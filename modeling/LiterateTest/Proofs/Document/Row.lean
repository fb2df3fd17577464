import LiterateTest.Document.Row
import LiterateTest.Proofs.Document.Validation

/-! Expressions that are asked for one after the other, as by the cells of a row: what is expected in
the end asks for each of them. -/

namespace LiterateTest

open Expression

/-! ## Expectations -/

namespace Expectations

def ofExpressions (expressions : List String) : Expectations :=
  expressions.foldl pushExpression {}

variable {expected other : Expectations} {expressions : List String}

theorem expression_pushExpression (none : expected.expression = "") (expression : String) :
    (expected.pushExpression expression).expression = expression := by
  rw [pushExpression]
  split
  · next isEmpty => rw [none, String.isEmpty_iff.mp isEmpty]
  · rw [if_pos (by rw [none]; rfl)]

theorem expression_pushExpression_of_ne {expression : String} (asks : expected.expression ≠ "")
    (nonempty : expression ≠ "") :
    (expected.pushExpression expression).expression =
      expected.expression ++ " && " ++ expression := by
  rw [pushExpression, if_neg (by simpa using nonempty), if_neg (by simpa using asks)]

theorem pushExpression_eq (expected : Expectations) (expression : String) :
    expected.pushExpression expression =
      { expected with
        expression :=
          (pushExpression { expression := expected.expression } expression).expression } := by
  rw [pushExpression, pushExpression]
  split
  · rfl
  · split <;> rfl

theorem exitCode_pushExpression (expected : Expectations) (expression : String) :
    (expected.pushExpression expression).exitCode = expected.exitCode := by
  rw [pushExpression_eq]

theorem expression_pushExpression_congr (same : expected.expression = other.expression)
    (expression : String) :
    (expected.pushExpression expression).expression =
      (other.pushExpression expression).expression := by
  rw [pushExpression_eq expected, pushExpression_eq other, same]

theorem expression_foldl_congr (same : expected.expression = other.expression) :
    (expressions.foldl pushExpression expected).expression =
      (expressions.foldl pushExpression other).expression := by
  induction expressions generalizing expected other with
  | nil => exact same
  | cons first rest induction => exact induction (expression_pushExpression_congr same first)

theorem expression_foldl (asks : expected.expression ≠ "")
    (nonempty : ∀ expression ∈ expressions, expression ≠ "") :
    (expressions.foldl pushExpression expected).expression.toList =
      Validation.joinFragments ((expected.expression :: expressions).map String.toList) := by
  induction expressions generalizing expected with
  | nil => simp [Validation.joinFragments]
  | cons first rest induction =>
      have pushed := expression_pushExpression_of_ne asks (nonempty first List.mem_cons_self)
      have asksBoth : (expected.pushExpression first).expression ≠ "" := by
        rw [pushed]
        simp
      rw [List.foldl_cons, induction asksBoth fun expression member =>
        nonempty expression (List.mem_cons_of_mem _ member), pushed]
      simp only [List.map_cons, String.toList_append]
      rw [Validation.joinFragments_append, Validation.joinFragments_cons, List.append_assoc]
      rfl

theorem expression_ofExpressions {first : String} {rest : List String}
    (nonempty : ∀ expression ∈ first :: rest, expression ≠ "") :
    (ofExpressions (first :: rest)).expression.toList =
      Validation.joinFragments ((first :: rest).map String.toList) := by
  have alone : (pushExpression {} first).expression = first := expression_pushExpression rfl first
  have asks : (pushExpression {} first).expression ≠ "" := by
    rw [alone]
    exact nonempty first List.mem_cons_self
  have joined := expression_foldl asks fun expression member =>
    nonempty expression (List.mem_cons_of_mem first member)
  rwa [alone] at joined

end Expectations

/-! ## Meaning -/

/-- Whether an expression stands for all of its parts: it is true just if each of them is, unless
they are nested too deeply one behind the other. -/
structure AsksForAll (bindings : Record Json) (parts : List String) (expression : String) :
    Prop where
  value : fitsAfter 0 (parts.map String.toList) = true → ∃ value,
    evaluateSource bindings expression = .ok (.bool value) ∧
      (value = true ↔ ∀ part ∈ parts, evaluateSource bindings part = .ok (.bool true))
  tooDeep : fitsAfter 0 (parts.map String.toList) = false → ∃ offset,
    evaluateSource bindings expression = .error (.parse offset .tooDeep)

section

variable {bindings : Record Json}

theorem ne_empty_of_evaluateSource {expression : String} {value : Json}
    (ok : evaluateSource bindings expression = .ok value) : expression ≠ "" := by
  rintro rfl
  exact Validation.evaluateSource_empty value ok

theorem holds_of_evaluateSource {part : String} {value : Bool}
    (ok : evaluateSource bindings part = .ok (.bool value)) :
    Validation.holds bindings part.toList = value := by
  rw [Validation.holds, String.ofList_toList, ok]

theorem parsesWithin_of_evaluateSource {source : List Char} {value : Json}
    (ok : evaluateSource bindings (String.ofList source) = .ok value) :
    parsesWithin maxDepth source = true := by
  rcases derives_of_evaluateSource ok with ⟨expr, tokens, nesting, derives, evaluates⟩
  rw [parsesWithin_iff derives evaluates.hasTokens]
  by_cases fits : nesting ≤ maxDepth
  · exact fits
  · rcases (evaluateSource_of_derives derives evaluates).2 fits with ⟨offset, failed⟩
    cases ok.symm.trans failed

theorem asksForAll_single {part : String} {value : Bool}
    (ok : evaluateSource bindings part = .ok (.bool value)) : AsksForAll bindings [part] part := by
  have fits : fitsAfter 0 ([part].map String.toList) = true := by
    rw [← String.ofList_toList (s := part)] at ok
    rw [List.map_singleton, fitsAfter, fitsAfter, Bool.and_true]
    exact parsesWithin_of_evaluateSource ok
  constructor
  · intro _
    refine ⟨value, ok, ?_⟩
    rw [List.forall_mem_singleton, ok]
    simp
  · intro noFit
    cases fits.symm.trans noFit

theorem asksForAll_of_tight {first : String} {rest : List String}
    (truth : ∀ part ∈ first :: rest, ∃ value, evaluateSource bindings part = .ok (.bool value))
    (tight : ∀ part ∈ first :: rest, isLoose part.toList = false) :
    AsksForAll bindings (first :: rest)
      (Expectations.ofExpressions (first :: rest)).expression := by
  have visible : ∀ part ∈ first :: rest, part ≠ "" := by
    intro part member
    rcases truth part member with ⟨value, ok⟩
    exact ne_empty_of_evaluateSource ok
  have conjuncts : ∀ part ∈ first :: rest, ∃ length nesting,
      Conjunct bindings part.toList length nesting (Validation.holds bindings part.toList) := by
    intro part member
    rcases truth part member with ⟨value, ok⟩
    rw [holds_of_evaluateSource ok]
    rw [← String.ofList_toList (s := part)] at ok
    exact conjunct_of_tight ok (tight part member)
  have joined := Validation.evaluateSource_joined (List.cons_ne_nil first rest) conjuncts
  rw [← Expectations.expression_ofExpressions visible, String.ofList_toList] at joined
  constructor
  · intro fits
    refine ⟨_, joined.1 fits, ?_⟩
    rw [List.all_eq_true]
    refine forall₂_congr fun part member => ?_
    rcases truth part member with ⟨value, ok⟩
    rw [holds_of_evaluateSource ok, ok]
    simp
  · exact joined.2

theorem asksForAll_ofExpressions {parts : List String} (nonempty : parts ≠ [])
    (truth : ∀ part ∈ parts, ∃ value, evaluateSource bindings part = .ok (.bool value))
    (tight : 2 ≤ parts.length → ∀ part ∈ parts, isLoose part.toList = false) :
    AsksForAll bindings parts (Expectations.ofExpressions parts).expression := by
  match parts with
  | [] => exact absurd rfl nonempty
  | [only] =>
      rcases truth only List.mem_cons_self with ⟨value, ok⟩
      have same : (Expectations.ofExpressions [only]).expression = only :=
        Expectations.expression_pushExpression rfl only
      rw [same]
      exact asksForAll_single ok
  | first :: second :: rest => exact asksForAll_of_tight truth (tight (by simp))

end

/-! ## Rows -/

def cellExpression? (header cell : String) : Option String :=
  if Column.ofHeader header = .expression ∧ Text.trim cell ≠ "" then
    some (Validation.compileItem (Text.trim cell))
  else none

theorem cellExpression?_of_check {header cell check : String}
    (isExpression : Column.ofHeader header = .expression) (visible : Text.trim cell ≠ "")
    (found : Validation.checkOf? (Text.trimChars (Text.trim cell).toList) = some check.toList) :
    cellExpression? header cell = some check := by
  rw [cellExpression?, if_pos ⟨isExpression, visible⟩, Validation.compileItem,
    Validation.compileChars_of_check found, String.ofList_toList]

def rowExpressions (headers cells : List String) : List String :=
  (headers.zip cells).filterMap fun (header, cell) => cellExpression? header cell

namespace RowState

theorem expression_enter (state : RowState) (header cell : String) :
    (state.enter header cell).fixture.expected.expression =
      ((cellExpression? header cell).toList.foldl Expectations.pushExpression
        state.fixture.expected).expression := by
  by_cases isExpression : Column.ofHeader header = .expression
  · rw [enter, cellExpression?, isExpression]
    by_cases blank : Text.trim cell = ""
    · simp [blank]
    · simp [blank, updateExpected]
  · rw [cellExpression?, if_neg fun both => isExpression both.1, enter]
    cases column : Column.ofHeader header with
    | expression => exact absurd column isExpression
    | cwd | query | args | output | format | error | property key => rfl
    | name | exec =>
        dsimp only
        split <;> rfl
    | exitCode | count =>
        dsimp only
        split
        · rfl
        · split <;> rfl

theorem expression_foldl_enter (cells : List (String × String)) (state : RowState) :
    (cells.foldl (fun state (header, cell) => state.enter header cell)
        state).fixture.expected.expression =
      ((cells.filterMap fun (header, cell) => cellExpression? header cell).foldl
        Expectations.pushExpression state.fixture.expected).expression := by
  induction cells generalizing state with
  | nil => rfl
  | cons cell rest induction =>
      rcases cell with ⟨header, cell⟩
      have entered := expression_enter state header cell
      rw [List.foldl_cons, induction, List.filterMap_cons]
      dsimp only
      cases asked : cellExpression? header cell
      all_goals
        rw [asked] at entered
        exact Expectations.expression_foldl_congr entered

end RowState

theorem Fixture.expression_ofRow (headers cells : List String) (rowNumber : Nat)
    (frontMatter : FrontMatter) (sourceDir : String) :
    (ofRow headers cells rowNumber frontMatter sourceDir).expected.expression =
      (Expectations.ofExpressions (rowExpressions headers cells)).expression :=
  RowState.expression_foldl_enter (headers.zip cells) _

/-- If each of the expressions has a value of truth, what is asked for in the end stands for all of
them, unless one of several is a disjunction or a conditional that stands in no brackets. -/
theorem expression_asksForAll (bindings : Record Json) (parts : List String)
    (nonempty : parts ≠ [])
    (truth : ∀ part ∈ parts, ∃ value, evaluateSource bindings part = .ok (.bool value))
    (tight : 2 ≤ parts.length → ∀ part ∈ parts, isLoose part.toList = false) :
    AsksForAll bindings parts (Expectations.ofExpressions parts).expression ∧
    ∀ headers cells rowNumber frontMatter sourceDir, rowExpressions headers cells = parts →
      AsksForAll bindings parts
        (Fixture.ofRow headers cells rowNumber frontMatter sourceDir).expected.expression := by
  have asks := asksForAll_ofExpressions nonempty truth tight
  constructor
  · exact asks
  · intro headers cells rowNumber frontMatter sourceDir same
    rw [Fixture.expression_ofRow, same]
    exact asks

theorem expression_asksForAll_of_row :
    let bindings : Record Json := [("stdout", .string "ok")]
    let headers := ["Name", "CEL", "Output", "Validation"]
    let cells := ["x", " contains: ok ", "", "cel: !(stdout == \"\" || false) && true"]
    let parts := ["stdout.contains(\"ok\")", "!(stdout == \"\" || false) && true"]
    parts ≠ [] ∧
    (∀ part ∈ parts, ∃ value, evaluateSource bindings part = .ok (.bool value)) ∧
    (2 ≤ parts.length → ∀ part ∈ parts, isLoose part.toList = false) ∧
    rowExpressions headers cells = parts ∧ fitsAfter 0 (parts.map String.toList) = true ∧
    ∃ value,
      evaluateSource bindings (Fixture.ofRow headers cells 1 {} "").expected.expression =
        .ok (.bool value) ∧
      (value = true ↔ ∀ part ∈ parts, evaluateSource bindings part = .ok (.bool true)) := by
  intro bindings headers cells parts
  have nonempty : parts ≠ [] := List.cons_ne_nil _ _
  have truth : ∀ part ∈ parts, ∃ value, evaluateSource bindings part = .ok (.bool value) := by
    intro part member
    rw [List.mem_cons, List.mem_singleton] at member
    rcases member with rfl | rfl
    · exact ⟨true, rfl⟩
    · exact ⟨true, rfl⟩
  have tight : ∀ part ∈ parts, isLoose part.toList = false := by decide
  have noName : cellExpression? "Name" "x" = none := if_neg (by decide)
  have noOutput : cellExpression? "Output" "" = none := if_neg (by decide)
  have first : cellExpression? "CEL" " contains: ok " = some "stdout.contains(\"ok\")" :=
    cellExpression?_of_check (by decide) (by decide) (by decide)
  have second : cellExpression? "Validation" "cel: !(stdout == \"\" || false) && true" =
      some "!(stdout == \"\" || false) && true" :=
    cellExpression?_of_check (by decide) (by decide) (by decide)
  have same : rowExpressions headers cells = parts := by
    simp [rowExpressions, headers, cells, parts, noName, noOutput, first, second]
  have fits : fitsAfter 0 (parts.map String.toList) = true := by decide
  have asks := (expression_asksForAll bindings parts nonempty truth fun _ => tight).2
    headers cells 1 {} "" same
  exact ⟨nonempty, truth, fun _ => tight, same, fits, asks.value fits⟩

/-- A disjunction and a conditional take in the expression after them, which is false. Of
expressions that are all true there are more than can be read, and none at all cannot be read. -/
theorem expression_asksForAll_exceptions :
    (∀ first ∈ ["true || false", "true ? true : false"],
      evaluateSource [] first = .ok (.bool true) ∧
      evaluateSource [] "false" = .ok (.bool false) ∧
      evaluateSource [] (Expectations.ofExpressions [first, "false"]).expression =
        .ok (.bool true)) ∧
    (let parts := List.replicate 257 "true"
     (∀ part ∈ parts, evaluateSource [] part = .ok (.bool true)) ∧
      ∃ offset, evaluateSource [] (Expectations.ofExpressions parts).expression =
        .error (.parse offset .tooDeep)) ∧
    ∀ value, evaluateSource [] (Expectations.ofExpressions []).expression ≠ .ok value := by
  refine ⟨?_, ?_, fun value ok => ne_empty_of_evaluateSource ok rfl⟩
  · intro first member
    rw [List.mem_cons, List.mem_singleton] at member
    rcases member with rfl | rfl
    · exact ⟨rfl, rfl, rfl⟩
    · exact ⟨rfl, rfl, rfl⟩
  · intro parts
    have allTrue : ∀ part ∈ parts, evaluateSource [] part = .ok (.bool true) := by
      intro part member
      rw [List.eq_of_mem_replicate member]
      rfl
    have tight : ∀ part ∈ parts, isLoose part.toList = false := by
      intro part member
      rw [List.eq_of_mem_replicate member]
      decide
    have asks := asksForAll_of_tight (fun part member => ⟨true, allTrue part member⟩) tight
    have deep : fitsAfter 0 (parts.map String.toList) = false := by
      rw [List.map_replicate]
      decide +kernel
    exact ⟨allTrue, asks.tooDeep deep⟩

end LiterateTest
