import LiterateTest.Proofs.Expression.Lexing

/-! The characters of a token. No token but a string has a quote or a backslash in it, and a string
ends with its quote, so that the lexer never stops behind a backslash. -/

namespace LiterateTest.Expression

open Text

/-! ## Strings -/

theorem quote_of_lexString? {quote : Char} {text inside : List Char} {taken : Nat}
    (found : lexString? quote text = some (inside, taken)) :
    ∃ before after, text = before ++ quote :: after ∧ taken = before.length + 1 := by
  fun_induction lexString? quote text generalizing inside taken with
  | case1 => cases found
  | case2 => cases found
  | case3 escaped rest induction =>
      rcases Option.map_eq_some_iff.mp found with ⟨⟨text, count⟩, isText, same⟩
      cases same
      rcases induction isText with ⟨before, after, rfl, rfl⟩
      exact ⟨'\\' :: escaped :: before, after, rfl, rfl⟩
  | case4 rest notLast notEscape =>
      cases found
      exact ⟨[], rest, rfl, rfl⟩
  | case5 c rest notLast notEscape other induction =>
      rcases Option.map_eq_some_iff.mp found with ⟨⟨text, count⟩, isText, same⟩
      cases same
      rcases induction isText with ⟨before, after, rfl, rfl⟩
      exact ⟨c :: before, after, rfl, rfl⟩

/-! ## Plain tokens -/

def isPlain (c : Char) : Bool :=
  c != '"' && c != '\\'

def goesOn (c : Char) : Bool :=
  isWordRest c || ['.', '+', '-', '=', '&', '|'].contains c

theorem goesOn_of_isWordRest {c : Char} (word : isWordRest c = true) : goesOn c = true := by
  rw [goesOn, word]
  rfl

theorem goesOn_of_isDigit {c : Char} (digit : c.isDigit = true) : goesOn c = true :=
  goesOn_of_isWordRest (isWordRest_of_isDigit digit)

theorem isPlain_of_goesOn {c : Char} (further : goesOn c = true) : isPlain c = true := by
  have quote : c ≠ '"' := by
    rintro rfl
    cases further
  have backslash : c ≠ '\\' := by
    rintro rfl
    cases further
  simp [isPlain, quote, backslash]

theorem goesOn_of_mem_takeWhile {holds : Char → Bool} {text : List Char} {c : Char}
    (all : ∀ {c}, holds c = true → goesOn c = true) (member : c ∈ text.takeWhile holds) :
    goesOn c = true :=
  all (List.all_eq_true.mp List.all_takeWhile c member)

theorem prefix_append {first second text : List Char} (starts : first <+: text)
    (continues : second <+: text.drop first.length) : first ++ second <+: text := by
  rcases starts with ⟨rest, rfl⟩
  rw [List.drop_left] at continues
  exact (List.prefix_append_right_inj first).mpr continues

namespace NumberText

variable {text : List Char}

def fractionSpelling (text : List Char) : List Char :=
  if (fractionOf text).isEmpty then [] else '.' :: fractionOf text

theorem length_fractionSpelling : (fractionSpelling text).length = fractionEnd text := by
  rw [fractionSpelling, fractionEnd]
  split <;> rfl

theorem fractionSpelling_prefix : fractionSpelling text <+: text := by
  rw [fractionSpelling]
  split
  · exact List.nil_prefix
  · next nonempty =>
      rw [fractionOf.eq_def] at nonempty ⊢
      split at nonempty
      · exact (List.prefix_cons_inj _).mpr (List.takeWhile_prefix _)
      · exact absurd rfl nonempty

theorem goesOn_of_mem_fraction {c : Char} (member : c ∈ fractionSpelling text) :
    goesOn c = true := by
  rw [fractionSpelling] at member
  split at member
  · cases member
  · rcases List.mem_cons.mp member with rfl | member
    · decide
    · rw [fractionOf.eq_def] at member
      split at member
      · exact goesOn_of_mem_takeWhile goesOn_of_isDigit member
      · cases member

theorem signOf_prefix : signOf text <+: text := by
  rw [signOf.eq_def]
  split
  · simp
  · simp
  · exact List.nil_prefix

theorem goesOn_of_mem_signOf {c : Char} (member : c ∈ signOf text) : goesOn c = true := by
  rw [signOf.eq_def] at member
  split at member
  · cases List.mem_singleton.mp member
    decide
  · cases List.mem_singleton.mp member
    decide
  · cases member

theorem exponentOf_prefix : exponentOf text <+: text := by
  cases text with
  | nil => exact List.nil_prefix
  | cons mark rest =>
      rw [exponentOf_cons]
      split
      · dsimp only
        split
        · exact List.nil_prefix
        · rw [List.cons_append]
          apply (List.prefix_cons_inj mark).mpr
          exact prefix_append signOf_prefix (List.takeWhile_prefix _)
      · exact List.nil_prefix

theorem goesOn_of_mem_exponent {c : Char} (member : c ∈ exponentOf text) : goesOn c = true := by
  cases text with
  | nil => cases member
  | cons mark rest =>
      rw [exponentOf_cons] at member
      split at member
      · next isMark =>
          dsimp only at member
          split at member
          · cases member
          · rw [List.cons_append, List.mem_cons, List.mem_append] at member
            rcases member with rfl | member | member
            · rw [Bool.or_eq_true, decide_eq_true_iff, decide_eq_true_iff] at isMark
              rcases isMark with rfl | rfl <;> decide
            · exact goesOn_of_mem_signOf member
            · exact goesOn_of_mem_takeWhile goesOn_of_isDigit member
      · cases member

theorem exists_spelling (text : List Char) :
    ∃ spelling, spelling <+: text ∧ spelling.length = (ofChars text).length ∧
      ∀ c ∈ spelling, goesOn c = true := by
  let whole := text.takeWhile Char.isDigit
  let afterWhole := text.drop whole.length
  let afterFraction := afterWhole.drop (fractionEnd afterWhole)
  refine ⟨whole ++ (fractionSpelling afterWhole ++ exponentOf afterFraction), ?_, ?_, ?_⟩
  · apply prefix_append (List.takeWhile_prefix _)
    apply prefix_append fractionSpelling_prefix
    rw [length_fractionSpelling]
    exact exponentOf_prefix
  · rw [List.length_append, List.length_append, length_fractionSpelling, ← Nat.add_assoc]
    rfl
  · intro c member
    rw [List.mem_append, List.mem_append] at member
    rcases member with member | member | member
    · exact goesOn_of_mem_takeWhile goesOn_of_isDigit member
    · exact goesOn_of_mem_fraction member
    · exact goesOn_of_mem_exponent member

end NumberText

theorem goesOn_of_operatorPair? {c next : Char} {token : Token}
    (found : operatorPair? c next = some token) : isPlain c = true ∧ goesOn next = true := by
  rw [operatorPair?.eq_def] at found
  split at found <;> cases found <;> decide

theorem isPlain_of_operator? {c : Char} {token : Token} (found : operator? c = some token) :
    isPlain c = true := by
  rw [operator?.eq_def] at found
  split at found <;> cases found <;> decide

theorem exists_further_of_lexToken {c : Char} {rest : List Char} {token : Token} {ahead : Nat}
    (found : lexToken c rest = .ok (token, ahead)) (noString : ¬(c = '"' ∨ c = '\'')) :
    isPlain c = true ∧
      ∃ taken, taken <+: rest ∧ taken.length = ahead ∧ ∀ other ∈ taken, goesOn other = true := by
  rw [lexToken, if_neg noString] at found
  split at found
  · next digit =>
      rcases ok_of_map found with ⟨value, -, same⟩
      cases same
      refine ⟨isPlain_of_goesOn (goesOn_of_isDigit digit), ?_⟩
      rcases NumberText.exists_spelling (c :: rest) with ⟨spelling, starts, length, all⟩
      cases spelling with
      | nil => exact ⟨[], List.nil_prefix, by rw [← length]; rfl, by simp⟩
      | cons first others =>
          rcases List.cons_prefix_cons.mp starts with ⟨-, starts⟩
          refine ⟨others, starts, by rw [← length]; rfl, ?_⟩
          exact fun other member => all other (List.mem_cons_of_mem first member)
  · split at found
    · next word =>
        cases found
        have first := goesOn_of_isWordRest (isWordRest_of_isWordStart word)
        refine ⟨isPlain_of_goesOn first, _, List.takeWhile_prefix _, rfl, ?_⟩
        exact fun other member => goesOn_of_mem_takeWhile goesOn_of_isWordRest member
    · rw [lexOperator] at found
      split at found
      · next token isPair =>
          cases found
          rcases Option.bind_eq_some_iff.mp isPair with ⟨next, isNext, pair⟩
          rcases List.head?_eq_some_iff.mp isNext with ⟨others, rfl⟩
          refine ⟨(goesOn_of_operatorPair? pair).1, [next], by simp, rfl, ?_⟩
          intro other member
          cases List.mem_singleton.mp member
          exact (goesOn_of_operatorPair? pair).2
      · split at found
        · next token isOperator =>
            cases found
            exact ⟨isPlain_of_operator? isOperator, [], List.nil_prefix, rfl, by simp⟩
        · cases found

theorem exists_spelling_of_lexToken {c : Char} {rest : List Char} {token : Token} {ahead : Nat}
    (found : lexToken c rest = .ok (token, ahead)) (noString : ¬(c = '"' ∨ c = '\'')) :
    isPlain c = true ∧
      ∃ taken, taken <+: rest ∧ taken.length = ahead ∧ ∀ other ∈ taken, isPlain other = true := by
  rcases exists_further_of_lexToken found noString with ⟨plain, taken, starts, length, further⟩
  exact ⟨plain, taken, starts, length, fun other member => isPlain_of_goesOn (further other member)⟩

/-! ## Colons -/

theorem ahead_le_of_colon {c : Char} {rest : List Char} {token : Token} {ahead : Nat}
    (found : lexToken c (rest ++ [':']) = .ok (token, ahead)) : ahead ≤ rest.length := by
  by_cases isString : c = '"' ∨ c = '\''
  · rw [lexToken, if_pos isString] at found
    split at found
    · next inside taken string =>
        cases found
        rcases quote_of_lexString? string with ⟨before, after, same, rfl⟩
        cases after with
        | nil =>
            rcases List.append_inj' same rfl with ⟨-, last⟩
            cases last
            rcases isString with colon | colon <;> cases colon
        | cons next after =>
            have lengths := congrArg List.length same
            simp only [List.length_append, List.length_cons, List.length_nil] at lengths
            omega
    · cases found
  · rcases exists_further_of_lexToken found isString with ⟨-, taken, starts, rfl, further⟩
    rcases List.prefix_concat_iff.mp starts with rfl | starts
    · have colon := further ':' (by simp)
      cases colon
    · exact starts.length_le

/-- A text that ends with a colon has it as its last token. -/
theorem exists_colon_of_scan {offset ahead : Nat} {text : List Char} {lexemes : List Lexeme}
    (found : scan offset ahead (text ++ [':']) = .ok lexemes) (short : ahead ≤ text.length) :
    ∃ others, lexemes.map Lexeme.token = others ++ [.colon] := by
  induction text generalizing offset ahead lexemes with
  | nil =>
      have none : ahead = 0 := by simpa using short
      subst none
      cases found
      exact ⟨[], rfl⟩
  | cons c rest induction =>
      cases ahead with
      | succ ahead =>
          rw [List.cons_append, scan] at found
          exact induction found (by simpa using short)
      | zero =>
          rw [List.cons_append, scan] at found
          split at found
          · exact induction found (Nat.zero_le _)
          · split at found
            · cases found
            · next token ahead isToken =>
                rcases ok_of_map found with ⟨later, isLater, rfl⟩
                rcases induction isLater (ahead_le_of_colon isToken) with ⟨others, same⟩
                exact ⟨token :: others, by simp [same]⟩

end LiterateTest.Expression
