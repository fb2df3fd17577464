import LiterateTest.Proofs.Document.Negation

/-! The patterns of validations. A pattern is put between double quotes as it is written, and read
back as a string. So the escapes of strings apply to it: what is matched is the pattern itself with
line breaks and tabs in place of the escapes for them, unless an escaped backslash is in it, which
loses one of its two backslashes. -/

namespace LiterateTest.Validation

open Expression

/-! ## Parts of a pattern -/

/-- A character that is no backslash, or a backslash with the character behind it. -/
inductive PatternPart where
  | plain (c : Char)
  | escape (c : Char)
  deriving DecidableEq, Repr

def patternParts? : List Char → Option (List PatternPart)
  | [] => some []
  | ['\\'] => none
  | '\\' :: c :: rest => (patternParts? rest).map (.escape c :: ·)
  | c :: rest => (patternParts? rest).map (.plain c :: ·)

example : patternParts? "a\\\\d".toList = some [.plain 'a', .escape '\\', .plain 'd'] := by decide

namespace PatternPart

def written : PatternPart → List Char
  | plain c => [c]
  | escape c => ['\\', c]

def arriving : PatternPart → List Char
  | plain c => [c]
  | escape c => unescape '"' c

end PatternPart

/-- Whether a text arrives as it is, where a line break, a tab or a carriage return may take the
place of its escape. -/
inductive Unchanged : (text arrived : List Char) → Prop
  | nil : Unchanged [] []
  | kept (c : Char) {text arrived : List Char} (rest : Unchanged text arrived) :
      Unchanged (c :: text) (c :: arrived)
  | lineBreak {text arrived : List Char} (rest : Unchanged text arrived) :
      Unchanged ('\\' :: 'n' :: text) ('\n' :: arrived)
  | tab {text arrived : List Char} (rest : Unchanged text arrived) :
      Unchanged ('\\' :: 't' :: text) ('\t' :: arrived)
  | carriageReturn {text arrived : List Char} (rest : Unchanged text arrived) :
      Unchanged ('\\' :: 'r' :: text) ('\r' :: arrived)

theorem written_of_patternParts? {pattern : List Char} {parts : List PatternPart}
    (found : patternParts? pattern = some parts) :
    parts.flatMap PatternPart.written = pattern := by
  fun_induction patternParts? pattern generalizing parts with
  | case1 =>
      cases found
      rfl
  | case2 => cases found
  | case3 c rest induction =>
      rcases Option.map_eq_some_iff.mp found with ⟨others, same, rfl⟩
      rw [List.flatMap_cons, induction same]
      rfl
  | case4 c rest notLast noEscape induction =>
      rcases Option.map_eq_some_iff.mp found with ⟨others, same, rfl⟩
      rw [List.flatMap_cons, induction same]
      rfl

theorem escape_quote_notMem {pattern : List Char} {parts : List PatternPart}
    (found : patternParts? pattern = some parts) (noQuote : '"' ∉ pattern) :
    .escape '"' ∉ parts := by
  rw [← written_of_patternParts? found, List.mem_flatMap] at noQuote
  intro member
  exact noQuote ⟨_, member, by simp [PatternPart.written]⟩

/-! ## What arrives -/

theorem Unchanged.escape {c : Char} (noQuote : c ≠ '"') (noBackslash : c ≠ '\\')
    {text arrived : List Char} (rest : Unchanged text arrived) :
    Unchanged ('\\' :: c :: text) (unescape '"' c ++ arrived) := by
  rw [unescape.eq_def]
  split
  · exact rest.lineBreak
  · exact rest.tab
  · exact rest.carriageReturn
  · exact absurd rfl noBackslash
  · rw [if_neg noQuote]
    exact (rest.kept c).kept '\\'

theorem unchanged_of_noBackslash {parts : List PatternPart} (noQuote : .escape '"' ∉ parts)
    (noBackslash : .escape '\\' ∉ parts) :
    Unchanged (parts.flatMap PatternPart.written) (parts.flatMap PatternPart.arriving) := by
  induction parts with
  | nil => exact .nil
  | cons part rest induction =>
      rw [List.mem_cons, not_or] at noQuote noBackslash
      have unchanged := induction noQuote.2 noBackslash.2
      rw [List.flatMap_cons, List.flatMap_cons]
      cases part with
      | plain c => exact unchanged.kept c
      | escape c =>
          apply unchanged.escape
          · rintro rfl
            exact noQuote.1 rfl
          · rintro rfl
            exact noBackslash.1 rfl

/-! A text that arrives unchanged can be shorter than it is written, but by no more characters than
there are new line breaks, tabs and carriage returns. -/

def isControl (c : Char) : Bool := c == '\n' || c == '\t' || c == '\r'

def weight (text : List Char) : Nat := text.length + text.countP isControl

@[simp] theorem weight_nil : weight [] = 0 := rfl

@[simp] theorem weight_cons (c : Char) (text : List Char) :
    weight (c :: text) = (if isControl c then 2 else 1) + weight text := by
  rw [weight, weight, List.length_cons, List.countP_cons]
  split <;> omega

theorem weight_append (first second : List Char) :
    weight (first ++ second) = weight first + weight second := by
  rw [weight, List.length_append, List.countP_append, weight, weight]
  omega

theorem Unchanged.weight_eq {text arrived : List Char} (unchanged : Unchanged text arrived) :
    weight arrived = weight text := by
  induction unchanged with
  | nil => rfl
  | kept c rest induction => simp [induction]
  | lineBreak rest induction | tab rest induction | carriageReturn rest induction =>
      simp [isControl, induction]
      omega

theorem weight_unescape {c : Char} (noQuote : c ≠ '"') :
    weight (unescape '"' c) + (if c = '\\' then 1 else 0) = weight ['\\', c] := by
  rw [unescape.eq_def]
  split
  · rfl
  · rfl
  · rfl
  · rfl
  · next other _ _ _ noBackslash =>
      rw [if_neg noQuote, if_neg noBackslash, Nat.add_zero]

theorem weight_arriving {parts : List PatternPart} (noQuote : .escape '"' ∉ parts) :
    weight (parts.flatMap PatternPart.arriving) + parts.count (.escape '\\') =
      weight (parts.flatMap PatternPart.written) := by
  induction parts with
  | nil => rfl
  | cons part rest induction =>
      rw [List.mem_cons, not_or] at noQuote
      have same := induction noQuote.2
      rw [List.flatMap_cons, List.flatMap_cons, weight_append, weight_append, ← same,
        List.count_cons]
      cases part with
      | plain c => simp [PatternPart.written, PatternPart.arriving]; omega
      | escape c =>
          have isPlain : c ≠ '"' := by
            rintro rfl
            exact noQuote.1 rfl
          have own := weight_unescape isPlain
          rw [PatternPart.written, ← own, PatternPart.arriving]
          simp
          omega

theorem unchanged_arriving_iff {parts : List PatternPart} (noQuote : .escape '"' ∉ parts) :
    Unchanged (parts.flatMap PatternPart.written) (parts.flatMap PatternPart.arriving) ↔
      .escape '\\' ∉ parts := by
  refine ⟨fun unchanged => ?_, unchanged_of_noBackslash noQuote⟩
  rw [← List.count_eq_zero]
  have lost := weight_arriving noQuote
  rw [unchanged.weight_eq] at lost
  omega

/-! ## Reading a pattern back -/

theorem lexString?_pattern {pattern : List Char} {parts : List PatternPart}
    (found : patternParts? pattern = some parts) (noQuote : '"' ∉ pattern) (rest : List Char) :
    lexString? '"' (pattern ++ '"' :: rest) =
      some (parts.flatMap PatternPart.arriving, pattern.length + 1) := by
  fun_induction patternParts? pattern generalizing parts with
  | case1 =>
      cases found
      rfl
  | case2 => cases found
  | case3 c rest induction =>
      rcases Option.map_eq_some_iff.mp found with ⟨others, same, rfl⟩
      simp only [List.mem_cons, not_or] at noQuote
      rw [List.cons_append, List.cons_append, lexString?, induction same noQuote.2.2]
      rfl
  | case4 c rest notLast noEscape induction =>
      rcases Option.map_eq_some_iff.mp found with ⟨others, same, rfl⟩
      rw [List.mem_cons, not_or] at noQuote
      rw [List.cons_append, lexString?_cons (ne_backslash notLast noEscape),
        if_neg (Ne.symm noQuote.1),
        induction same noQuote.2]
      rfl

theorem lexString?_unfinished {pattern : List Char} (unfinished : patternParts? pattern = none)
    (noQuote : '"' ∉ pattern) : lexString? '"' (pattern ++ closing) = none := by
  fun_induction patternParts? pattern with
  | case1 => cases unfinished
  | case2 => rfl
  | case3 c rest induction =>
      simp only [List.mem_cons, not_or] at noQuote
      rw [List.cons_append, List.cons_append, lexString?,
        induction (Option.map_eq_none_iff.mp unfinished) noQuote.2.2]
      rfl
  | case4 c rest notLast noEscape induction =>
      rw [List.mem_cons, not_or] at noQuote
      rw [List.cons_append, lexString?_cons (ne_backslash notLast noEscape),
        if_neg (Ne.symm noQuote.1),
        induction (Option.map_eq_none_iff.mp unfinished) noQuote.2]
      rfl

/-! ## Items -/

structure IsBare (pattern : List Char) : Prop where
  nonempty : pattern ≠ []
  trimmed : Text.trimChars pattern = pattern
  noQuotes : ∀ quote ∈ ['"', '\'', '\x60'], quote ∉ pattern

namespace IsBare

variable {pattern : List Char}

theorem noQuote (bare : IsBare pattern) : '"' ∉ pattern :=
  bare.noQuotes '"' List.mem_cons_self

theorem compileChars_eq (bare : IsBare pattern) :
    compileChars ("regex: ".toList ++ pattern) = outputCheck "matches" pattern := by
  have noBlankEnd : Text.dropBlankEnd (' ' :: pattern) = ' ' :: pattern := by
    apply List.rdropWhile_eq_self_iff.mpr
    intro nonempty
    have nonempty : Text.trimChars pattern ≠ [] := by
      rw [bare.trimmed]
      exact bare.nonempty
    have visible := Text.isBlank_getLast_trimChars nonempty
    simp only [bare.trimmed] at visible
    rw [List.getLast_cons bare.nonempty, visible]
    exact Bool.false_ne_true
  have trimmed := trimChars_keyed 'r' "egex".toList (' ' :: pattern) (by decide)
  rw [noBlankEnd] at trimmed
  have inside : Text.trimChars (' ' :: pattern) = pattern := bare.trimmed
  apply compileChars_of_check
  change checkOf? (Text.trimChars ('r' :: "egex".toList ++ ':' :: ' ' :: pattern)) = _
  rw [trimmed]
  change some (outputCheck "matches" (Text.trimChars (' ' :: pattern))) = _
  rw [inside]

theorem between?_eq_none {quote : Char} (notMem : quote ∉ pattern) :
    between? quote pattern = none := by
  rw [between?, if_neg]
  rintro ⟨-, first, -⟩
  exact notMem (List.mem_of_head? first)

theorem unquote_eq (bare : IsBare pattern) : unquote pattern = pattern := by
  have keeps (quote : Char) (isQuote : quote ∈ ['"', '\'', '\x60']) :=
    between?_eq_none (bare.noQuotes quote isQuote)
  rw [unquote, bare.trimmed, keeps '"' (by decide), keeps '\'' (by decide),
    keeps '\x60' (by decide)]

end IsBare

theorem escapeQuotes_of_noQuote {text : List Char} (noQuote : '"' ∉ text)
    (previous : Option Char) : escapeQuotes previous text = text := by
  induction text generalizing previous with
  | nil => rfl
  | cons c rest induction =>
      rw [List.mem_cons, not_or] at noQuote
      rw [escapeQuotes, if_neg fun quote => noQuote.1 quote.1.symm, induction noQuote.2]

section

variable {pattern : String}

theorem scan_regexItem (bare : IsBare pattern.toList) :
    tokenize (compileItem (OutputKey.regex.item pattern)) =
      (scan OutputKey.regex.stringOffset 0 ('"' :: (pattern.toList ++ closing))).map
        (OutputKey.regex.opening ++ ·) := by
  have compiled : compileChars (OutputKey.regex.item pattern).toList =
      outputCheck "matches" pattern.toList := by
    rw [OutputKey.item, String.toList_append]
    exact bare.compileChars_eq
  rw [tokenize, compileItem, String.toList_ofList, compiled]
  have scanned := scan_outputCheck .regex pattern.toList
  rw [bare.unquote_eq, escapeQuotes_of_noQuote bare.noQuote] at scanned
  exact scanned

theorem tokenize_unfinished (bare : IsBare pattern.toList)
    (unfinished : patternParts? pattern.toList = none) :
    tokenize (compileItem (OutputKey.regex.item pattern)) = .error (15, .unterminatedString) := by
  rw [scan_regexItem bare, scan_quote, lexString?_unfinished unfinished bare.noQuote]
  rfl

theorem tokenize_pattern (bare : IsBare pattern.toList) {parts : List PatternPart}
    (found : patternParts? pattern.toList = some parts) :
    ∃ lexemes, tokenize (compileItem (OutputKey.regex.item pattern)) = .ok lexemes ∧
      lexemes.map Lexeme.token =
        OutputKey.regex.checkTokens (String.ofList (parts.flatMap PatternPart.arriving)) ∧
      parseLexemes lexemes =
        .ok (OutputKey.regex.check (String.ofList (parts.flatMap PatternPart.arriving))) := by
  rcases scan_string OutputKey.regex.stringOffset (lexString?_pattern found bare.noQuote [')'])
    with ⟨close, lexed⟩
  refine ⟨_, ?_, ?_, OutputKey.regex.parseLexemes_check _ close⟩
  · rw [scan_regexItem bare, lexed]
    rfl
  · rfl

theorem parse_of_tokenize {source : String} {lexemes : List Lexeme} {expr : Expr}
    (lexed : tokenize source = .ok lexemes) (parsed : parseLexemes lexemes = .ok expr) :
    parse source = .ok expr := by
  rw [parse, Expression.lexemes, lexed]
  simp only [Bind.bind, Except.bind]
  rw [parsed]

theorem evaluateSource_check {names : Record Json} {output source argument : String}
    (found : Record.get? "stdout" names = some (.string output))
    (parsed : parse source = .ok (OutputKey.regex.check argument)) :
    evaluateSource names source = matchesPattern output argument := by
  rw [evaluateSource_eq, parsed]
  change evaluateDeclared names (OutputKey.regex.check argument) = _
  rw [evaluateDeclared, undeclared?_check found]
  exact evaluate_check found .regex argument

/-- What an item asks the output to match. A pattern that ends in a single backslash leaves the
string open. Every other one is matched with what its escapes stand for in strings, which is the
pattern itself, but for line breaks, tabs and carriage returns, just if no escaped backslash is in
it. -/
theorem evaluateSource_regexItem (bare : IsBare pattern.toList) :
    let source := compileItem (OutputKey.regex.item pattern)
    (patternParts? pattern.toList = none →
      tokenize source = .error (15, .unterminatedString) ∧
        ∀ names, evaluateSource names source = .error (.lex 15 .unterminatedString)) ∧
    (∀ parts, patternParts? pattern.toList = some parts →
      ∃ argument lexemes, argument.toList = parts.flatMap PatternPart.arriving ∧
        tokenize source = .ok lexemes ∧
        lexemes.map Lexeme.token = OutputKey.regex.checkTokens argument ∧
        ∀ fixture actual, evaluateSource (bindings fixture actual) source =
          matchesPattern actual.stdout argument) ∧
    ((∃ argument lexemes, tokenize source = .ok lexemes ∧
        lexemes.map Lexeme.token = OutputKey.regex.checkTokens argument ∧
        Unchanged pattern.toList argument.toList) ↔
      ∃ parts, patternParts? pattern.toList = some parts ∧ .escape '\\' ∉ parts) := by
  intro source
  refine ⟨?_, ?_, ?_⟩
  · intro unfinished
    have failed : tokenize source = .error (15, .unterminatedString) :=
      tokenize_unfinished bare unfinished
    refine ⟨failed, fun names => ?_⟩
    rw [evaluateSource_eq, parse, Expression.lexemes, failed]
    rfl
  · intro parts found
    rcases tokenize_pattern bare found with ⟨lexemes, lexed, tokens, parsed⟩
    refine ⟨_, lexemes, String.toList_ofList, lexed, tokens, fun fixture actual => ?_⟩
    apply evaluateSource_check (get?_stdout fixture actual)
    exact parse_of_tokenize lexed parsed
  · constructor
    · rintro ⟨argument, lexemes, lexed, tokens, unchanged⟩
      cases found : patternParts? pattern.toList with
      | none =>
          cases lexed.symm.trans (tokenize_unfinished bare found)
      | some parts =>
          rcases tokenize_pattern bare found with ⟨others, sameLexed, sameTokens, -⟩
          cases lexed.symm.trans sameLexed
          have same := tokens.symm.trans sameTokens
          simp only [OutputKey.checkTokens, List.cons.injEq, Token.string.injEq, true_and,
            and_true] at same
          rw [same, String.toList_ofList, ← written_of_patternParts? found] at unchanged
          refine ⟨parts, rfl, ?_⟩
          exact (unchanged_arriving_iff (escape_quote_notMem found bare.noQuote)).mp unchanged
    · rintro ⟨parts, found, noBackslash⟩
      rcases tokenize_pattern bare found with ⟨lexemes, lexed, tokens, -⟩
      refine ⟨_, lexemes, lexed, tokens, ?_⟩
      rw [String.toList_ofList, ← written_of_patternParts? found]
      exact unchanged_of_noBackslash (escape_quote_notMem found bare.noQuote) noBackslash

end

theorem evaluateSource_regexItem_of_class :
    let pattern := "^\\d+\\.x\\n$"
    IsBare pattern.toList ∧ ∃ argument lexemes,
      tokenize (compileItem (OutputKey.regex.item pattern)) = .ok lexemes ∧
      lexemes.map Lexeme.token = OutputKey.regex.checkTokens argument ∧
      Unchanged pattern.toList argument.toList := by
  intro pattern
  have bare : IsBare pattern.toList :=
    { nonempty := by decide, trimmed := by decide, noQuotes := by simp [pattern] }
  have found : patternParts? pattern.toList =
      some [.plain '^', .escape 'd', .plain '+', .escape '.', .plain 'x', .escape 'n',
        .plain '$'] := by decide
  exact ⟨bare, (evaluateSource_regexItem bare).2.2.mpr ⟨_, found, by decide⟩⟩

theorem matchesPattern_of_read? {text pattern : String} {holds : Bool}
    (found : (Pattern.read? pattern).map (fun read => read.occursIn text) = some holds) :
    matchesPattern text pattern = .ok (.bool holds) := by
  rcases Option.map_eq_some_iff.mp found with ⟨read, isRead, rfl⟩
  rw [matchesPattern, isRead]

/-- A pattern for a backslash and the character behind it arrives as one for a dot, and a pattern
that ends in a backslash cannot be read. -/
theorem tokenize_regexItem_exceptions :
    (let pattern := "x\\\\."
     IsBare pattern.toList ∧ ∃ lexemes,
      tokenize (compileItem (OutputKey.regex.item pattern)) = .ok lexemes ∧
      lexemes.map Lexeme.token = OutputKey.regex.checkTokens "x\\." ∧
      ¬Unchanged pattern.toList "x\\.".toList ∧
      matchesPattern "x\\d" pattern = .ok (.bool true) ∧
      ∀ fixture, evaluateSource (bindings fixture { stdout := "x\\d" })
        (compileItem (OutputKey.regex.item pattern)) = .ok (.bool false)) ∧
    (let pattern := "x\\"
     IsBare pattern.toList ∧
      tokenize (compileItem (OutputKey.regex.item pattern)) =
        .error (15, .unterminatedString)) := by
  constructor
  · intro pattern
    have bare : IsBare pattern.toList :=
      { nonempty := by decide, trimmed := by decide, noQuotes := by simp [pattern] }
    have found : patternParts? pattern.toList =
        some [.plain 'x', .escape '\\', .plain '.'] := by decide
    rcases tokenize_pattern bare found with ⟨lexemes, lexed, tokens, parsed⟩
    refine ⟨bare, lexemes, lexed, tokens, ?_, ?_, fun fixture => ?_⟩
    · intro unchanged
      -- The pattern and what arrives have the same weight where one is made of the other.
      exact absurd unchanged.weight_eq (by decide)
    · exact matchesPattern_of_read? (by decide +kernel)
    · rw [evaluateSource_check (get?_stdout fixture _) (parse_of_tokenize lexed parsed)]
      exact matchesPattern_of_read? (by decide +kernel)
  · intro pattern
    have bare : IsBare pattern.toList :=
      { nonempty := by decide, trimmed := by decide, noQuotes := by simp [pattern] }
    exact ⟨bare, tokenize_unfinished bare (by decide)⟩

end LiterateTest.Validation
