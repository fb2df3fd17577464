import LiterateTest.Fixture.Verdict
import LiterateTest.Proofs.Document.KeptItem
import LiterateTest.Proofs.Document.OutputCheck
import LiterateTest.Proofs.Expression.Spelling
import LiterateTest.Proofs.Fixture.Binding

/-! Items that assert or deny that the output contains a text. Whatever the text is, as long as no
backslash is in it, and however often it is denied, what stands for the item says the same. -/

namespace LiterateTest

open Expression

/-! ## Negated expressions -/

namespace Expression

variable {bindings : Record Json} {source : List Char} {expr : Expr} {tokens : List Token}

theorem Evaluates.not {c : Char} {holds : Bool}
    (evaluates : Evaluates bindings (c :: source) expr tokens (.bool holds)) (noEqual : c ≠ '=') :
    Evaluates bindings ('!' :: c :: source) (.unary .not expr) (.bang :: tokens)
      (.bool !holds) := by
  refine ⟨evaluates.hasTokens.not noEqual, ?_, ?_⟩
  · have declared := evaluates.declared
    rw [undeclared?] at declared ⊢
    rw [freeVariables]
    exact declared
  · have result := evaluates.value
    rw [evaluate] at result ⊢
    rw [evaluateIn, result]
    rfl

end Expression

namespace Validation

/-! ## Checks -/

theorem derives_check (argument : String) :
    Derives (.unary (OutputKey.contains.check argument)) (OutputKey.contains.checkTokens argument)
      2 := by
  have inside : Derives (.arguments [.literal (.string argument)]) [.string argument] 1 :=
    .someArguments (.lastItem (derives_literal rfl))
  have output : Derives (.postfixed 0 (.reference "stdout")) [.word "stdout"] 0 :=
    .bare (.reference "stdout")
  exact .plain (output.method rfl inside)

/-! ## Items -/

def negatedChars (count : Nat) (text : List Char) : List Char :=
  (List.replicate count "not: ".toList).flatten ++ ("contains: \"".toList ++ text ++ ['"'])

def negatedItem (count : Nat) (text : String) : String :=
  String.ofList (negatedChars count text.toList)

def quoted (text : List Char) : List Char := '"' :: (text ++ ['"'])

section

variable (count : Nat) (text : List Char)

theorem trimChars_quoted : Text.trimChars (quoted text) = quoted text :=
  Text.trimChars_visible text ⟨by decide, by decide⟩

theorem unquote_quoted : unquote (quoted text) = text := by
  have last : (quoted text).getLast? = some '"' := by
    rw [quoted, ← List.cons_append, List.getLast?_concat]
  have inside : between? '"' (quoted text) = some text := by
    rw [between?, if_pos ⟨by simp [quoted], rfl, last⟩]
    simp [quoted]
  rw [unquote, trimChars_quoted, inside]

theorem negatedChars_succ :
    negatedChars (count + 1) text = "not: ".toList ++ negatedChars count text := by
  rw [negatedChars, List.replicate_succ, List.flatten_cons, List.append_assoc]
  rfl

theorem trimChars_negatedChars :
    Text.trimChars (negatedChars count text) = negatedChars count text := by
  cases count with
  | zero => exact Text.trimChars_visible ("ontains: \"".toList ++ text) ⟨by decide, by decide⟩
  | succ count =>
      rw [negatedChars_succ, negatedChars, ← List.append_assoc, ← List.append_assoc]
      exact Text.trimChars_visible ("ot: ".toList ++ _) ⟨by decide, by decide⟩

theorem valueAfter?_contains :
    valueAfter? "contains" (negatedChars 0 text) = some (quoted text) :=
  congrArg some (trimChars_quoted text)

theorem valueAfter?_not :
    valueAfter? "not" (negatedChars (count + 1) text) = some (negatedChars count text) := by
  rw [negatedChars_succ]
  exact congrArg some (trimChars_negatedChars count text)

theorem keptItems_negatedItem (text : String) :
    keptItems [negatedItem count text] = [negatedChars count text.toList] := by
  have hasValue : ∃ key, HasValue key (negatedChars count text.toList) := by
    cases count with
    | zero => exact ⟨"contains", _, valueAfter?_contains text.toList, by simp [quoted]⟩
    | succ count =>
        exact ⟨"not", _, valueAfter?_not count text.toList, by simp [negatedChars]⟩
  rcases hasValue with ⟨key, hasValue⟩
  rw [keptItems, List.map_singleton, negatedItem, String.toList_ofList, trimChars_negatedChars]
  simp [hasValue.ne_nil, hasValue.isLabel_eq_false]

theorem compile_negatedItem (text : String) :
    compile [negatedItem count text] =
      String.ofList (compileChars (negatedChars count text.toList)) := by
  apply compile_of_single
  rw [fragments_eq_map, keptItems_negatedItem, List.map_singleton]

theorem compileChars_zero :
    compileChars (negatedChars 0 text) = outputCheck "contains" (quoted text) := by
  apply compileChars_of_check
  rw [trimChars_negatedChars, checkOf?, valueAfter?_contains]
  rfl

theorem checkOf?_negatedChars : checkOf? (negatedChars (count + 1) text) = none := by
  rw [negatedChars_succ]
  rfl

theorem compileChars_one :
    compileChars (negatedChars 1 text) = '!' :: outputCheck "contains" (quoted text) := by
  apply compileChars_of_not_contains _ _ (valueAfter?_contains text)
  · rw [trimChars_negatedChars, checkOf?_negatedChars]
  · rw [trimChars_negatedChars, valueAfter?_not]

theorem compileChars_more :
    compileChars (negatedChars (count + 2) text) =
      '!' :: ('(' :: compileChars (negatedChars (count + 1) text) ++ [')']) := by
  have noContains : valueAfter? "contains" (negatedChars (count + 1) text) = none := by
    rw [negatedChars_succ]
    rfl
  have noCheck : checkOf? (Text.trimChars (negatedChars (count + 2) text)) = none := by
    rw [trimChars_negatedChars, checkOf?_negatedChars]
  have negation : valueAfter? "not" (Text.trimChars (negatedChars (count + 2) text)) =
      some (negatedChars (count + 1) text) := by
    rw [trimChars_negatedChars, valueAfter?_not]
  rw [compileChars_of_negation noCheck negation, noContains]
  rfl

end

/-! ## Meaning -/

section

variable {names : Record Json} {output : String} {text : List Char}

theorem iterate_not_iff (count : Nat) (holds : Bool) :
    Bool.not^[count] holds = true ↔ ¬(holds = true ↔ count % 2 = 1) := by
  induction count with
  | zero => simp
  | succ count induction =>
      rw [Function.iterate_succ_apply', Bool.not_eq_true', ← Bool.not_eq_true, induction]
      have parity : (count + 1) % 2 = 1 ↔ ¬count % 2 = 1 := by omega
      rw [parity]
      tauto

theorem undeclared?_check (found : Record.get? "stdout" names = some (.string output))
    (key : OutputKey) (argument : String) :
    undeclared? (Schema.ofBindings names) (key.check argument) = none := by
  rw [undeclared?, OutputKey.check, freeVariables, freeVariables, freeInItems, freeVariables,
    freeInItems]
  simpa [Schema.ofBindings, Schema.admits] using Record.mem_keys_of_get? found

theorem evaluate_check (found : Record.get? "stdout" names = some (.string output))
    (key : OutputKey) (argument : String) :
    evaluate names (key.check argument) =
      stringMethod output key.method [.string argument] := by
  have notSize : key.method ≠ "size" := by cases key <;> decide
  rw [evaluate, OutputKey.check]
  simp [evaluateIn, evaluateItems, Scope.lookup, Scope.get?, Record.get?, found, callMethod,
    notSize, Bind.bind, Except.bind]

theorem evaluates_check (plain : '\\' ∉ text)
    (found : Record.get? "stdout" names = some (.string output)) :
    Evaluates names (outputCheck "contains" (quoted text))
      (OutputKey.contains.check (String.ofList text))
      (OutputKey.contains.checkTokens (String.ofList text))
      (.bool (Text.containsChars text output.toList)) := by
  have noBackslash : '\\' ∉ unquote (quoted text) := by rwa [unquote_quoted]
  have hasTokens := hasTokens_outputCheck .contains noBackslash
  rw [unquote_quoted] at hasTokens
  refine ⟨hasTokens, undeclared?_check found .contains _, ?_⟩
  rw [evaluate_check found, OutputKey.method]
  simp [stringMethod, stringArgument, Text.contains, Bind.bind, Except.bind]

/-- What stands for a negated item is a negation itself, of an expression in brackets if that is
one, too. Each negation but the first takes two levels of nesting. -/
theorem exists_negation (plain : '\\' ∉ text)
    (found : Record.get? "stdout" names = some (.string output)) (count : Nat) :
    ∃ expr tokens, Derives (.unary expr) tokens (2 * count + 3) ∧
      Evaluates names (compileChars (negatedChars (count + 1) text)) expr tokens
        (.bool (Bool.not^[count + 1] (Text.containsChars text output.toList))) := by
  have isNot : unaryOperator? .bang = some .not := rfl
  induction count with
  | zero =>
      refine ⟨_, _, (derives_check (String.ofList text)).unary isNot, ?_⟩
      rw [compileChars_one]
      exact (evaluates_check plain found).not (by decide)
  | succ count induction =>
      -- One level for the brackets, in which an expression begins anew, and one for the sign.
      rcases induction with ⟨expr, tokens, derives, evaluates⟩
      have group : Derives (.unary expr) (.leftParen :: (tokens ++ [.rightParen])) (2 * count + 4) :=
        .plain (.bare (.group derives.whole))
      refine ⟨_, _, group.unary isNot, ?_⟩
      rw [compileChars_more, Function.iterate_succ_apply']
      exact evaluates.grouped.not (by decide)

theorem exists_expression_of_negated (plain : '\\' ∉ text)
    (found : Record.get? "stdout" names = some (.string output)) (count : Nat) :
    ∃ expr tokens nesting, Derives (.expression expr) tokens nesting ∧
      (nesting ≤ maxDepth ↔ count ≤ 127) ∧
      Evaluates names (compileChars (negatedChars count text)) expr tokens
        (.bool (Bool.not^[count] (Text.containsChars text output.toList))) := by
  cases count with
  | zero =>
      refine ⟨_, _, _, (derives_check (String.ofList text)).whole, by decide, ?_⟩
      rw [compileChars_zero]
      exact evaluates_check plain found
  | succ count =>
      rcases exists_negation plain found count with ⟨expr, tokens, derives, evaluates⟩
      refine ⟨expr, tokens, _, derives.whole, ?_, evaluates⟩
      -- The nesting is even, and 256 for 127 negations.
      rw [maxDepth]
      omega

end

end Validation

/-! ## Outputs -/

theorem get?_stdout (fixture : Fixture) (actual : ProcessOutput) :
    Record.get? "stdout" (bindings fixture actual) = some (.string actual.stdout) :=
  get?_bindings_of_standard fixture rfl

/-- An item that asserts a text, or denies it so many times, is true of an output just if it says
what is the case; it can be read as long as it has no more than 127 negations. -/
theorem evaluateSource_negatedItem (count : Nat) (text : String) (plain : '\\' ∉ text.toList)
    (fixture : Fixture) (actual : ProcessOutput) :
    (count ≤ 127 → ∃ value,
      evaluateSource (bindings fixture actual)
        (Validation.compile [Validation.negatedItem count text]) = .ok (.bool value) ∧
      (value = true ↔ ¬(text.toList <:+: actual.stdout.toList ↔ count % 2 = 1))) ∧
    (127 < count → ∃ offset,
      evaluateSource (bindings fixture actual)
        (Validation.compile [Validation.negatedItem count text]) =
          .error (.parse offset .tooDeep)) := by
  rcases Validation.exists_expression_of_negated plain (get?_stdout fixture actual) count with
    ⟨expr, tokens, nesting, derives, fits, evaluates⟩
  have results := evaluateSource_of_derives derives evaluates
  rw [Validation.compile_negatedItem, ← Text.containsChars_iff_infix]
  constructor
  · intro few
    exact ⟨_, results.1 (fits.mpr few), Validation.iterate_not_iff count _⟩
  · intro many
    apply results.2
    omega

theorem evaluateSource_negatedItem_of_quotes :
    let text := " \"a\"\n: b"
    let actual : ProcessOutput := { stdout := "say \"a\"\n: b!" }
    '\\' ∉ text.toList ∧ 2 ≤ 127 ∧ 127 < 128 ∧
    (∃ value,
      evaluateSource (bindings {} actual)
        (Validation.compile ["not: not: contains: \" \"a\"\n: b\""]) = .ok (.bool value) ∧
      (value = true ↔ ¬(text.toList <:+: actual.stdout.toList ↔ 2 % 2 = 1))) ∧
    ∃ offset,
      evaluateSource (bindings {} actual)
        (Validation.compile [Validation.negatedItem 128 text]) =
          .error (.parse offset .tooDeep) := by
  intro text actual
  have plain : '\\' ∉ text.toList := by decide
  have written : Validation.negatedItem 2 text =
    "not: not: contains: \" \"a\"\n: b\"" := by decide
  have twice := (evaluateSource_negatedItem 2 text plain {} actual).1 (by decide)
  rw [written] at twice
  exact ⟨plain, by decide, by decide, twice,
    (evaluateSource_negatedItem 128 text plain {} actual).2 (by decide)⟩

end LiterateTest
