import LiterateTest.Proofs.Document.KeptItem
import LiterateTest.Proofs.Document.Row
import LiterateTest.Proofs.Document.TestCount
import LiterateTest.Proofs.Expression.Requirement
import LiterateTest.Proofs.Fixture.Verdict

/-! What is asserted below a command is part of what its test expects. -/

namespace LiterateTest

open Expression

namespace Validation

/-! ## Marked lists -/

theorem isValidationList_of_hasValue {items : List String} {item : String} (member : item ∈ items)
    {key : String} (isKey : key ∈ ["cel", "contains", "regex"])
    (hasValue : HasValue key (Text.trimChars item.toList)) :
    isValidationList (Text.joinWith "\n" items) = true := by
  rcases hasValue with ⟨value, found, -⟩
  rcases eq_of_valueAfter? found with ⟨rest, whole, -⟩
  have mark : key.toList ++ [':'] <:+: (Text.joinWith "\n" items).toList := by
    have starts : key.toList ++ [':'] <+: Text.trimChars item.toList := by
      rw [whole]
      exact ⟨rest, by simp⟩
    exact starts.isInfix.trans
      ((Text.trimChars_infix item.toList).trans (Text.infix_joinWith "\n" member))
  have contained : Text.contains (Text.joinWith "\n" items) (key ++ ":") = true := by
    rw [Text.contains, Text.containsChars_iff_infix, String.toList_append]
    exact mark
  have isMark : ∀ key ∈ ["cel", "contains", "regex"],
      key ++ ":" ∈ ["cel:", "regex:", "contains:"] := by decide
  rw [isValidationList, Bool.or_eq_true]
  exact .inr (List.any_eq_true.mpr ⟨_, isMark key isKey, contained⟩)

/-! ## Places in an expression -/

/-- Whether a fragment stands in an expression as an operand of its conjunction, or is all of it. -/
def Stands (fragment expression : List Char) : Prop :=
  expression = fragment ∨
    ∃ before after, expression = joinFragments (before ++ protect fragment :: after)

theorem stands_of_mem {items : List String} {fragment : List Char}
    (member : fragment ∈ fragments items) : Stands fragment (compile items).toList := by
  cases shape : fragments items with
  | nil =>
      rw [shape] at member
      cases member
  | cons first others =>
      cases others with
      | nil =>
          rw [shape] at member
          cases List.mem_singleton.mp member
          rw [compile_of_single shape, String.toList_ofList]
          exact .inl rfl
      | cons second others =>
          rcases List.append_of_mem member with ⟨before, after, split⟩
          rw [(compile_of_several shape).1, String.toList_ofList, split, List.map_append,
            List.map_cons]
          exact .inr ⟨_, _, rfl⟩

theorem length_le_protect (fragment : List Char) : fragment.length ≤ (protect fragment).length := by
  rw [protect]
  split
  · simp only [List.length_append, List.length_cons]
    omega
  · exact Nat.le_refl _

theorem Stands.length_le {fragment expression : List Char} (stands : Stands fragment expression) :
    fragment.length ≤ expression.length := by
  rcases stands with rfl | ⟨before, after, rfl⟩
  · exact Nat.le_refl _
  · have member : protect fragment ∈ before ++ protect fragment :: after := by simp
    exact (length_le_protect fragment).trans (Text.infix_intercalate member).length_le

/-! ## What lists require -/

/-- Whether the fragments of a list are expressions, and none of several falls apart. -/
structure WellFormed (items : List String) : Prop where
  accepted : ∀ fragment ∈ fragments items, ∃ expr, parse (String.ofList fragment) = .ok expr
  whole : staysWhole items = true

section

variable {isTrue : Json → Prop} {bindings : Record Json}

theorem requires_protect {fragment : List Char} {expr : Expr}
    (accepted : parse (String.ofList fragment) = .ok expr)
    (whole : fallsApart fragment = false) :
    ∃ length, Requires isTrue bindings (protect fragment) length [fragment] := by
  cases disjunction : Text.containsChars ['|', '|'] fragment with
  | true =>
      rw [protect, if_pos disjunction]
      exact ⟨0, requires_grouped accepted⟩
  | false =>
      rw [protect, disjunction]
      rw [fallsApart, disjunction] at whole
      exact requires_plain accepted disjunction whole

theorem requires_join (truth : ∀ holds, isTrue (.bool holds) ↔ holds = true)
    {parts : List (List Char)} (nonempty : parts ≠ [])
    (accepted : ∀ part ∈ parts, ∃ expr, parse (String.ofList part) = .ok expr)
    (whole : ∀ part ∈ parts, fallsApart part = false) :
    ∃ length, Requires isTrue bindings (joinFragments (parts.map protect)) length parts := by
  induction parts with
  | nil => exact absurd rfl nonempty
  | cons first others induction =>
      rcases accepted first List.mem_cons_self with ⟨expr, isExpr⟩
      rcases requires_protect isExpr (whole first List.mem_cons_self) with ⟨length, own⟩
      cases others with
      | nil => exact ⟨length, by simpa [joinFragments] using own⟩
      | cons second others =>
          rcases induction (List.cons_ne_nil _ _)
            (fun part member => accepted part (List.mem_cons_of_mem first member))
            (fun part member => whole part (List.mem_cons_of_mem first member)) with ⟨more, rest⟩
          refine ⟨length + more + 1, ?_⟩
          rw [List.map_cons, List.map_cons, joinFragments_cons]
          exact own.and truth rest

theorem exists_of_compile (truth : ∀ holds, isTrue (.bool holds) ↔ holds = true)
    {items : List String} (wellFormed : WellFormed items) {value : Json}
    (ok : evaluateSource bindings (compile items) = .ok value) (counts : isTrue value) :
    ∀ fragment ∈ fragments items,
      ∃ own, evaluateSource bindings (String.ofList fragment) = .ok own ∧ isTrue own := by
  cases shape : fragments items with
  | nil => exact fun fragment member => nomatch member
  | cons first others =>
      cases others with
      | nil =>
          intro fragment member
          cases List.mem_singleton.mp member
          rw [compile_of_single shape] at ok
          exact ⟨value, ok, counts⟩
      | cons second others =>
          have parts := compile_of_several shape
          have whole := wellFormed.whole
          rw [parts.2.2, List.all_eq_true] at whole
          rw [parts.1] at ok
          have nonempty : fragments items ≠ [] := by
            rw [shape]
            exact List.cons_ne_nil _ _
          rcases requires_join truth nonempty wellFormed.accepted (by simpa using whole) with
            ⟨length, requires⟩
          rw [← shape]
          exact requires.of_evaluateSource ok counts

theorem passed_of_compile {items : List String} (wellFormed : WellFormed items)
    {names : Record Json} (passed : evaluateExpression (compile items) names = .passed)
    {fragment : List Char} (member : fragment ∈ fragments items) :
    evaluateExpression (String.ofList fragment) names = .passed := by
  let isTrue (value : Json) : Prop := ∀ source, ExpressionOutcome.ofValue source value = .passed
  have truth : ∀ holds, isTrue (.bool holds) ↔ holds = true :=
    fun holds => ⟨fun counts => passed_ofValue_bool_iff.mp (counts ""),
      fun isHolding _ => passed_ofValue_bool_iff.mpr isHolding⟩
  rcases exists_of_passed passed with ⟨value, ok, counts⟩
  rcases exists_of_compile truth wellFormed ok (passed_ofValue counts) fragment member with
    ⟨own, ownOk, ownCounts⟩
  rw [evaluateExpression_of_evaluateSource ownOk]
  exact ownCounts _

end

theorem compileChars_trimChars (item : List Char) :
    compileChars (Text.trimChars item) = compileChars item := by
  rw [compileChars, Text.trimChars_trimChars]
  conv_rhs => rw [compileChars]

theorem Asserts.mem_fragments {item : String} (asserts : Asserts item) {items : List String}
    (member : item ∈ items) : compileChars item.toList ∈ fragments items := by
  rw [fragments_eq_map, ← compileChars_trimChars]
  exact List.mem_map_of_mem (asserts.kept member)

end Validation

/-! ## Commands -/

section

variable {frontMatter : FrontMatter} {sourceDir : String}

theorem CommandBlock.mem_validations {body : List Block} {items : List String}
    (isList : .list items ∈ body)
    (marked : Validation.isValidationList (Text.joinWith "\n" items) = true) {item : String}
    (member : item ∈ items) : item ∈ validations body := by
  have found : Block.validations? (.list items) = some items := if_pos marked
  exact List.mem_flatten.mpr ⟨items, List.mem_filterMap.mpr ⟨_, isList, found⟩, member⟩

def CommandBlock.IsTest (frontMatter : FrontMatter) (sourceDir : String)
    (command : String × List Block) (fixture : Fixture) : Prop :=
  ∃ overrides, CommandBlock.overrides command.2 = .ok overrides ∧
    fixture? command.1 frontMatter sourceDir overrides command.2 = some fixture

theorem CommandBlock.exists_fixture_of_runs {command : String × List Block}
    (runs : runs frontMatter command = true) (overrides : Overrides) :
    ∃ fixture, fixture? command.1 frontMatter sourceDir overrides command.2 = some fixture := by
  rcases command with ⟨name, body⟩
  rw [CommandBlock.runs, Bool.and_eq_true, Bool.not_eq_true'] at runs
  rcases runs with ⟨named, visible⟩
  rw [Declaration.commandFixture?_eq]
  cases found : body.findSome? (Block.command? frontMatter) with
  | none =>
      rw [found] at visible
      cases visible
  | some code =>
      rw [found, Option.any_some, Bool.not_eq_true'] at visible
      have notSkipped : ¬(name.isEmpty || Text.isBlankText code.2) = true := by
        rw [named, visible]
        exact Bool.false_ne_true
      exact ⟨_, by rw [Option.bind_some, Declaration.ofCommandCode?, if_neg notSkipped]⟩

theorem CommandBlock.IsTest.expression_eq {command : String × List Block} {fixture : Fixture}
    (isTest : IsTest frontMatter sourceDir command fixture) :
    fixture.expected.expression = Validation.compile (validations command.2) := by
  rcases isTest with ⟨overrides, -, isFixture⟩
  rw [fixture?] at isFixture
  split at isFixture
  · cases isFixture
  · split at isFixture
    · cases isFixture
    · cases isFixture
      exact Expectations.expression_pushExpression rfl _

namespace Document

theorem exists_test_of_segment {segment : Segment} {tests : List Fixture}
    (found : segment.fixtures frontMatter sourceDir = .ok tests) {command : String × List Block}
    (member : command ∈ segment.commands) (runs : CommandBlock.runs frontMatter command = true) :
    ∃ fixture, CommandBlock.IsTest frontMatter sourceDir command fixture ∧ fixture ∈ tests := by
  rw [Segment.commands, Option.mem_toList, Option.map_eq_some_iff] at member
  rcases member with ⟨name, isCommand, rfl⟩
  rw [Segment.fixtures, isCommand] at found
  dsimp only at found
  rw [CommandBlock.fixtures] at found
  cases read : CommandBlock.overrides segment.body with
  | error fault =>
      rw [read] at found
      cases found
  | ok overrides =>
      rw [read] at found
      cases found
      rcases CommandBlock.exists_fixture_of_runs runs overrides with ⟨fixture, isFixture⟩
      refine ⟨fixture, ⟨overrides, read, isFixture⟩, List.mem_append_right _ ?_⟩
      rw [isFixture]
      exact List.mem_singleton_self fixture

theorem exists_test_of_segments {segments : List Segment} (series : Segment.Series segments)
    {tests : List Fixture} (found : fixturesOf frontMatter sourceDir segments = .ok tests)
    {command : String × List Block} (member : command ∈ commands (segments.flatMap Segment.blocks))
    (runs : CommandBlock.runs frontMatter command = true) :
    ∃ fixture, CommandBlock.IsTest frontMatter sourceDir command fixture ∧ fixture ∈ tests := by
  induction series generalizing tests with
  | nil => cases member
  | cons plain begins _ induction =>
      rcases exists_of_fixturesOf_cons found with ⟨first, others, own, later, rfl⟩
      rw [List.flatMap_cons, commands_segment plain begins] at member
      rcases List.mem_append.mp member with member | member
      · rcases exists_test_of_segment own member runs with ⟨fixture, isTest, isOwn⟩
        exact ⟨fixture, isTest, List.mem_append_left _ isOwn⟩
      · rcases induction later member with ⟨fixture, isTest, isLater⟩
        exact ⟨fixture, isTest, List.mem_append_right _ isLater⟩

theorem exists_test_of_ofBlocks {name : String} {blocks : List Block} {root : Node}
    (read : ofBlocks name blocks frontMatter sourceDir = .ok root)
    {command : String × List Block} (isCommand : command ∈ commands blocks)
    (runs : CommandBlock.runs frontMatter command = true) :
    ∃ fixture, CommandBlock.IsTest frontMatter sourceDir command fixture ∧
      some fixture ∈ root.payloads := by
  rcases fixtures_of_ofBlocks read with ⟨tests, found, payloads⟩
  rw [fixtures_eq] at found
  rw [← Segment.flatMap_blocks_all blocks] at isCommand
  rcases exists_test_of_segments (Segment.series_all blocks) found isCommand runs with
    ⟨fixture, isTest, member⟩
  rw [payloads]
  exact ⟨fixture, isTest, List.mem_map_of_mem member⟩

/-- No assertion below a command is lost. What an item of its lists says stands in the expression
of its test, if the list is marked, as it is by an item with a key for checks of the output. If
all that is asked of the test is well formed, it passes only where the item does. -/
theorem asserted_ofBlocks {name : String} {blocks : List Block} {root : Node}
    (read : ofBlocks name blocks frontMatter sourceDir = .ok root)
    {command : String × List Block} (isCommand : command ∈ commands blocks)
    (runs : CommandBlock.runs frontMatter command = true) {items : List String}
    (isList : .list items ∈ command.2)
    (marked : (∃ mark ∈ items, ∃ key ∈ ["cel", "contains", "regex"],
        Validation.HasValue key (Text.trimChars mark.toList)) ∨
      Validation.isValidationList (Text.joinWith "\n" items) = true)
    {item : String} (member : item ∈ items) (asserts : Validation.Asserts item) :
    ∃ fixture, CommandBlock.IsTest frontMatter sourceDir command fixture ∧
      some fixture ∈ root.payloads ∧
      Validation.Stands (Validation.compileChars item.toList)
        fixture.expected.expression.toList ∧
      (Validation.WellFormed (CommandBlock.validations command.2) → ∀ names,
        evaluateExpression fixture.expected.expression names = .passed →
        evaluateExpression (Validation.compileItem item) names = .passed) := by
  have isMarked : Validation.isValidationList (Text.joinWith "\n" items) = true := by
    rcases marked with ⟨mark, isItem, key, isKey, hasValue⟩ | marked
    · exact Validation.isValidationList_of_hasValue isItem isKey hasValue
    · exact marked
  rcases exists_test_of_ofBlocks read isCommand runs with ⟨fixture, isTest, isPayload⟩
  have isFragment := asserts.mem_fragments (CommandBlock.mem_validations isList isMarked member)
  refine ⟨fixture, isTest, isPayload, ?_, ?_⟩
  · rw [isTest.expression_eq]
    exact Validation.stands_of_mem isFragment
  · intro wellFormed names passed
    rw [isTest.expression_eq] at passed
    exact Validation.passed_of_compile wellFormed passed isFragment

theorem asserted_ofBlocks_of_negation :
    let items := ["cel: exitCode == 0 || false", "not: contains: error"]
    let body : List Block := [.code "bash" "true\n", .list items]
    ∃ root fixture, ofBlocks "doc.md" (.heading 2 "command: go" :: body) {} "/docs" = .ok root ∧
      some fixture ∈ root.payloads ∧
      Validation.Stands (Validation.compileChars "not: contains: error".toList)
        fixture.expected.expression.toList ∧
      ∀ names, evaluateExpression fixture.expected.expression names = .passed →
        evaluateExpression (Validation.compileItem "not: contains: error") names = .passed := by
  intro items body
  have read : ofBlocks "doc.md" (.heading 2 "command: go" :: body) {} "/docs" = .ok _ := rfl
  have isCommand : ("go", body) ∈ commands (.heading 2 "command: go" :: body) :=
    List.mem_cons_self
  have runs : CommandBlock.runs {} ("go", body) = true := by decide
  have isList : .list items ∈ body := List.mem_cons_of_mem _ List.mem_cons_self
  have isMark : Validation.HasValue "cel" (Text.trimChars "cel: exitCode == 0 || false".toList) :=
    ⟨"exitCode == 0 || false".toList, by decide, by decide⟩
  have asserts : Validation.Asserts "not: contains: error" :=
    .inl ⟨"not", by decide, "contains: error".toList, by decide, by decide⟩
  have member : "not: contains: error" ∈ items := List.mem_cons_of_mem _ List.mem_cons_self
  rcases asserted_ofBlocks read isCommand runs isList
    (.inl ⟨_, List.mem_cons_self, "cel", List.mem_cons_self, isMark⟩) member asserts with
    ⟨fixture, isTest, isPayload, stands, passes⟩
  refine ⟨_, fixture, read, isPayload, stands, passes ?_⟩
  have validations : CommandBlock.validations body = items := by decide
  have kept : Validation.keptItems items = items.map String.toList := by decide
  have first : Validation.compileChars "cel: exitCode == 0 || false".toList =
      "exitCode == 0 || false".toList := Validation.compileChars_of_check (by decide)
  have negation : Validation.valueAfter? "not" (Text.trimChars "not: contains: error".toList) =
      some "contains: error".toList := by decide
  have contains : Validation.valueAfter? "contains" "contains: error".toList =
      some "error".toList := by decide
  have second : Validation.compileChars "not: contains: error".toList =
      "!stdout.contains(\"error\")".toList := by
    rw [Validation.compileChars_of_not_contains (by decide) negation contains]
    decide
  have parts : Validation.fragments items =
      ["exitCode == 0 || false".toList, "!stdout.contains(\"error\")".toList] := by
    rw [Validation.fragments_eq_map, kept, List.map_cons, List.map_cons, List.map_cons,
      List.map_cons, first, second]
    rfl
  constructor
  · rw [validations, parts]
    intro fragment isPart
    rcases List.mem_cons.mp isPart with rfl | isPart
    · exact ⟨_, rfl⟩
    · cases List.mem_singleton.mp isPart
      exact ⟨_, rfl⟩
  · rw [validations, Validation.staysWhole, parts]
    decide

/-- The only key of the first list is that of a negation, so that it is an ordinary list. The second
item of the other list is an expression, and is taken for a label. -/
theorem asserted_ofBlocks_exceptions :
    (let item := "not: exitCode == 1"
     let body : List Block := [.code "bash" "true\n", .list [item]]
     ∃ root fixture, ofBlocks "doc.md" (.heading 2 "command: go" :: body) {} "/docs" = .ok root ∧
        some fixture ∈ root.payloads ∧ CommandBlock.IsTest {} "/docs" ("go", body) fixture ∧
        Validation.HasValue "not" (Text.trimChars item.toList) ∧
        ¬Validation.Stands (Validation.compileChars item.toList)
          fixture.expected.expression.toList) ∧
    (let first := "cel: exitCode == 0"
     let second := "stdout == \"no validation errors\""
     let body : List Block := [.code "bash" "true\n", .list [first, second]]
     ∃ root fixture, ofBlocks "doc.md" (.heading 2 "command: go" :: body) {} "/docs" = .ok root ∧
        some fixture ∈ root.payloads ∧ CommandBlock.IsTest {} "/docs" ("go", body) fixture ∧
        Validation.HasValue "cel" (Text.trimChars first.toList) ∧
        (∃ expr, parse second = .ok expr) ∧
        ¬Validation.Stands (Validation.compileChars second.toList)
          fixture.expected.expression.toList) := by
  constructor
  · intro item body
    have read : ofBlocks "doc.md" (.heading 2 "command: go" :: body) {} "/docs" = .ok _ := rfl
    have isCommand : ("go", body) ∈ commands (.heading 2 "command: go" :: body) :=
      List.mem_cons_self
    have runs : CommandBlock.runs {} ("go", body) = true := by decide
    rcases exists_test_of_ofBlocks read isCommand runs with ⟨fixture, isTest, isPayload⟩
    refine ⟨_, fixture, read, isPayload, isTest, ⟨"exitCode == 1".toList, by decide, by decide⟩, ?_⟩
    rw [isTest.expression_eq]
    intro stands
    have nonempty : Validation.compileChars item.toList ≠ [] :=
      Validation.compileChars_ne_nil (by decide) (by decide) (by decide)
    have noItems : CommandBlock.validations body = [] := by decide
    rw [noItems] at stands
    exact nonempty (List.eq_nil_of_length_eq_zero (Nat.le_zero.mp stands.length_le))
  · intro first second body
    have read : ofBlocks "doc.md" (.heading 2 "command: go" :: body) {} "/docs" = .ok _ := rfl
    have isCommand : ("go", body) ∈ commands (.heading 2 "command: go" :: body) :=
      List.mem_cons_self
    have runs : CommandBlock.runs {} ("go", body) = true := by decide
    rcases exists_test_of_ofBlocks read isCommand runs with ⟨fixture, isTest, isPayload⟩
    have accepted : parse "stdout == \"no validation errors\"" = .ok _ := rfl
    refine ⟨_, fixture, read, isPayload, isTest, ⟨"exitCode == 0".toList, by decide, by decide⟩,
      ⟨_, accepted⟩, ?_⟩
    rw [isTest.expression_eq]
    intro stands
    have items : CommandBlock.validations body = [first, second] := by decide
    have kept : Validation.keptItems [first, second] = [first.toList] := by decide
    have fragment : Validation.compileChars first.toList = "exitCode == 0".toList :=
      Validation.compileChars_of_check (by decide)
    have single : Validation.fragments [first, second] = ["exitCode == 0".toList] := by
      rw [Validation.fragments_eq_map, kept, List.map_singleton, fragment]
    have whole : Validation.compileChars second.toList = Text.trimChars second.toList :=
      Validation.compileChars_of_unkeyed (by decide) (by decide)
    rw [items, Validation.compile_of_single single, whole] at stands
    exact absurd stands.length_le (by decide)

end Document

end

end LiterateTest
