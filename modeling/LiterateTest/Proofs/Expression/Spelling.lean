import LiterateTest.Proofs.Expression.Lexing
import Mathlib.Data.List.Basic

/-! How tokens are written, so that a text can be read token by token: operators, words, integers,
and strings with their escapes. -/

namespace LiterateTest.Expression

open Text

/-! ## One token and what follows it -/

theorem scan_passed (offset : Nat) (passed rest : List Char) :
    scan offset passed.length (passed ++ rest) = scan (offset + utf8Length passed) 0 rest := by
  induction passed generalizing offset with
  | nil => rfl
  | cons c passed induction =>
      have size : offset + c.utf8Size + utf8Length passed = offset + utf8Length (c :: passed) := by
        simp [utf8Length, Nat.add_assoc]
      rw [List.length_cons, List.cons_append, scan, induction, size]

theorem hasTokens_nil : HasTokens [] [] := fun _ => ⟨[], rfl, rfl⟩

theorem HasTokens.cons {c : Char} {passed rest : List Char} {token : Token} {tokens : List Token}
    (following : HasTokens rest tokens) (visible : isAsciiBlank c = false)
    (isToken : lexToken c (passed ++ rest) = .ok (token, passed.length)) :
    HasTokens (c :: (passed ++ rest)) (token :: tokens) := by
  intro offset
  rcases following (offset + c.utf8Size + utf8Length passed) with ⟨lexemes, found, rfl⟩
  refine ⟨⟨token, offset⟩ :: lexemes, ?_, rfl⟩
  have notBlank : ¬isAsciiBlank c = true := by rw [visible]; exact Bool.false_ne_true
  rw [scan, if_neg notBlank, isToken]
  dsimp only
  rw [scan_passed, found]
  rfl

theorem HasTokens.blank {text : List Char} {tokens : List Token}
    (following : HasTokens text tokens) : HasTokens (' ' :: text) tokens := by
  intro offset
  rcases following (offset + 1) with ⟨lexemes, found, same⟩
  exact ⟨lexemes, found, same⟩

/-! ## Operators -/

def IsMark (c : Char) (token : Token) : Prop :=
  operator? c = some token ∧ ∀ next, operatorPair? c next = none

theorem isMark_of_operator? {c : Char} {token : Token} (isOperator : operator? c = some token)
    (noPair : c ≠ '!' ∧ c ≠ '<' ∧ c ≠ '>') : IsMark c token := by
  refine ⟨isOperator, fun next => ?_⟩
  rw [operatorPair?.eq_def]
  split <;> first | rfl | simp [operator?] at noPair isOperator

theorem visible_of_operator? {c : Char} {token : Token} (isOperator : operator? c = some token) :
    isAsciiBlank c = false ∧ ¬(c = '"' ∨ c = '\'') ∧ c.isDigit = false ∧
      isWordStart c = false := by
  rw [operator?.eq_def] at isOperator
  split at isOperator <;> first | decide | cases isOperator

theorem HasTokens.mark {c : Char} {text : List Char} {token : Token} {tokens : List Token}
    (following : HasTokens text tokens) (isMark : IsMark c token) :
    HasTokens (c :: text) (token :: tokens) := by
  rcases visible_of_operator? isMark.1 with ⟨visible, noQuote, noDigit, noWord⟩
  have isToken : lexToken c text = .ok (token, 0) := by
    rw [lexToken, if_neg noQuote, if_neg (by simp [noDigit]), if_neg (by simp [noWord])]
    exact lexOperator_single isMark.1 isMark.2 text
  have whole : HasTokens (c :: ([] ++ text)) (token :: tokens) := following.cons visible isToken
  exact whole

theorem HasTokens.not {c : Char} {text : List Char} {tokens : List Token}
    (following : HasTokens (c :: text) tokens) (noEqual : c ≠ '=') :
    HasTokens ('!' :: c :: text) (.bang :: tokens) := by
  have noPair : operatorPair? '!' c = none := by
    simp [operatorPair?, noEqual]
  have isToken : lexToken '!' (c :: text) = .ok (.bang, 0) := by
    change lexOperator '!' (c :: text) = _
    rw [lexOperator, List.head?_cons, Option.bind_some, noPair]
    rfl
  have whole : HasTokens ('!' :: ([] ++ c :: text)) (.bang :: tokens) :=
    following.cons (by decide) isToken
  exact whole

/-! ## Words and integers -/

def Ends (text : List Char) : Prop :=
  ∀ c, text.head? = some c → isWordRest c = false ∧ c ≠ '.'

theorem ends_nil : Ends [] := by
  intro c head
  cases head

theorem ends_of_isMark {c : Char} {token : Token} (isMark : IsMark c token) (noDot : c ≠ '.')
    (rest : List Char) : Ends (c :: rest) := by
  rcases visible_of_operator? isMark.1 with ⟨-, -, noDigit, noWord⟩
  rintro other ⟨⟩
  rw [isWordStart, Bool.or_eq_false_iff] at noWord
  refine ⟨?_, noDot⟩
  rw [isWordRest, Char.isAlphanum, noWord.1, noDigit, noWord.2]
  rfl

theorem takeWhile_append_of_ends {holds : Char → Bool} {text rest : List Char}
    (inWords : ∀ c, holds c = true → isWordRest c = true) (all : ∀ c ∈ text, holds c = true)
    (ends : Ends rest) : (text ++ rest).takeWhile holds = text := by
  rw [List.takeWhile_append_of_pos all]
  cases rest with
  | nil => simp
  | cons c rest =>
      have stops : ¬holds c = true := by
        intro goesOn
        have inWord := inWords c goesOn
        rw [(ends c rfl).1] at inWord
        cases inWord
      rw [List.takeWhile_cons, if_neg stops, List.append_nil]

theorem isDigit_of_isWordStart {c : Char} (word : isWordStart c = true) : c.isDigit = false := by
  have letters : ((decide (65 ≤ c.val ∧ c.val ≤ 90) || (97 ≤ c.val && c.val ≤ 122)) || c == '_') =
      true := word
  simp only [Bool.or_eq_true, Bool.and_eq_true, decide_eq_true_eq, beq_iff_eq,
    UInt32.le_iff_toNat_le] at letters
  simp only [Char.isDigit, Bool.and_eq_false_iff, decide_eq_false_iff_not, UInt32.le_iff_toNat_le]
  rcases letters with (upper | lower) | rfl
  · have low := upper.1
    simp at low ⊢
    omega
  · have low := lower.1
    simp at low ⊢
    omega
  · decide

theorem HasTokens.word {c : Char} {rest : List Char} {tokens : List Token} (word : List Char)
    (following : HasTokens rest tokens) (starts : isWordStart c = true)
    (isWord : word.all isWordRest = true) (ends : Ends rest) :
    HasTokens (c :: (word ++ rest)) (Token.ofWord (String.ofList (c :: word)) :: tokens) := by
  have noQuote : ¬(c = '"' ∨ c = '\'') := by
    rintro (rfl | rfl) <;> cases starts
  have visible : isAsciiBlank c = false := by
    rw [Bool.eq_false_iff]
    intro blank
    rcases separator_cases (.inl blank) with rfl | rfl | rfl | rfl | rfl | rfl <;> cases starts
  apply following.cons visible
  rw [lexToken, if_neg noQuote, if_neg (by simp [isDigit_of_isWordStart starts]), if_pos starts,
    takeWhile_append_of_ends (fun _ => id) (List.all_eq_true.mp isWord) ends]

namespace NumberText

theorem fractionOf_of_ends {rest : List Char} (ends : Ends rest) : fractionOf rest = [] := by
  rw [fractionOf.eq_def]
  split
  · exact absurd rfl (ends '.' rfl).2
  · rfl

theorem exponentOf_of_ends {rest : List Char} (ends : Ends rest) : exponentOf rest = [] := by
  cases rest with
  | nil => rfl
  | cons mark rest =>
      have noMark : ¬(mark = 'e' || mark = 'E') = true := by
        have noWord := (ends mark rfl).1
        rw [Bool.or_eq_true, decide_eq_true_iff, decide_eq_true_iff]
        rintro (rfl | rfl) <;> cases noWord
      rw [exponentOf_cons, if_neg noMark]

theorem ofChars_digits {digits rest : List Char} (isDigits : ∀ c ∈ digits, c.isDigit = true)
    (ends : Ends rest) : ofChars (digits ++ rest) = ⟨digits, [], []⟩ := by
  have whole : (digits ++ rest).takeWhile Char.isDigit = digits :=
    takeWhile_append_of_ends (fun _ => isWordRest_of_isDigit) isDigits ends
  have noFraction : fractionEnd rest = 0 := by
    rw [fractionEnd, fractionOf_of_ends ends]
    rfl
  rw [ofChars_eq, whole, List.drop_left, noFraction, fractionOf_of_ends ends, List.drop_zero,
    exponentOf_of_ends ends]

end NumberText

theorem ofDigits_eq_ofDigitChars {digits : List Char}
    (isDigits : ∀ c ∈ digits, c.isDigit = true) :
    Integer.ofDigits 10 digits = Nat.ofDigitChars 10 digits 0 := by
  rw [Integer.ofDigits, Nat.ofDigitChars_eq_foldl]
  apply List.foldl_ext
  intro value c member
  rw [Integer.ofDigits.hexValue, if_pos (isDigits c member), Nat.mul_comm]
  rfl

theorem isDigit_of_mem_toDigits {value : Nat} {c : Char} (member : c ∈ Nat.toDigits 10 value) :
    c.isDigit = true :=
  Nat.isDigit_of_mem_toDigits (by decide) (by decide) member

theorem ofDigits_toDigits (value : Nat) : Integer.ofDigits 10 (Nat.toDigits 10 value) = value := by
  rw [ofDigits_eq_ofDigitChars fun _ => isDigit_of_mem_toDigits, Nat.ofDigitChars_ten_toDigits]

theorem HasTokens.int {rest : List Char} {tokens : List Token} (following : HasTokens rest tokens)
    (value : Fin (2 ^ 63)) (ends : Ends rest) :
    HasTokens (Nat.toDigits 10 value ++ rest) (.int value :: tokens) := by
  have isDigits : ∀ c ∈ Nat.toDigits 10 value, c.isDigit = true :=
    fun _ => isDigit_of_mem_toDigits
  have whole := NumberText.ofChars_digits isDigits ends
  have written := ofDigits_toDigits value
  cases digits : Nat.toDigits 10 value with
  | nil => exact absurd digits Nat.toDigits_ne_nil
  | cons c more =>
      rw [digits] at isDigits whole written
      have digit := isDigits c List.mem_cons_self
      have noQuote : ¬(c = '"' ∨ c = '\'') := by
        rintro (rfl | rfl) <;> cases digit
      have visible : isAsciiBlank c = false := by
        rw [Bool.eq_false_iff]
        intro blank
        rcases separator_cases (.inl blank) with rfl | rfl | rfl | rfl | rfl | rfl <;> cases digit
      apply following.cons visible
      rw [List.cons_append] at whole
      rw [lexToken, if_neg noQuote, if_pos digit, whole]
      have token : NumberText.token ⟨c :: more, [], []⟩ = .ok (.int value) := by
        simp only [NumberText.token, List.isEmpty_nil, Bool.and_self, if_true, written]
        rw [dif_pos value.isLt]
      dsimp only
      rw [token]
      rfl

/-! ## Strings -/

/-- Whether what is written in a string is read as the text, whatever follows in the string. -/
def Writes (quote : Char) (written text : List Char) : Prop :=
  ∀ rest inside taken, lexString? quote rest = some (inside, taken) →
    lexString? quote (written ++ rest) = some (text ++ inside, taken + written.length)

variable {quote : Char}

theorem writes_nil : Writes quote [] [] := fun _ _ _ found => found

theorem Writes.append {written more text others : List Char} (first : Writes quote written text)
    (second : Writes quote more others) : Writes quote (written ++ more) (text ++ others) := by
  intro rest inside taken found
  rw [List.append_assoc, first _ _ _ (second _ _ _ found), List.append_assoc, List.length_append]
  congr 2
  omega

theorem writes_plain {c : Char} (noQuote : c ≠ quote) (noBackslash : c ≠ '\\') :
    Writes quote [c] [c] := by
  intro rest inside taken found
  rw [List.cons_append, List.nil_append, lexString?_cons noBackslash, if_neg noQuote, found]
  rfl

theorem writes_escape (c : Char) : Writes quote ['\\', c] (unescape quote c) := by
  intro rest inside taken found
  rw [List.cons_append, List.cons_append, List.nil_append, lexString?, found]
  rfl

theorem writes_flatMap {escape : Char → List Char} {text : List Char}
    (writes : ∀ c ∈ text, Writes quote (escape c) [c]) :
    Writes quote (text.flatMap escape) text := by
  induction text with
  | nil => exact writes_nil
  | cons c text induction =>
      rw [List.flatMap_cons]
      apply (writes c List.mem_cons_self).append
      exact induction fun other member => writes other (List.mem_cons_of_mem c member)

theorem HasTokens.string {written text rest : List Char} {tokens : List Token}
    (following : HasTokens rest tokens) (writes : Writes '"' written text) :
    HasTokens ('"' :: (written ++ '"' :: rest)) (.string (String.ofList text) :: tokens) := by
  have closing : lexString? '"' ('"' :: rest) = some ([], 1) := lexString?_cons (by decide) rest
  have inside := writes _ _ _ closing
  rw [List.append_nil, Nat.add_comm] at inside
  have apart : written ++ '"' :: rest = (written ++ ['"']) ++ rest := by simp
  rw [apart] at inside ⊢
  apply following.cons rfl
  rw [lexToken, if_pos (.inl rfl), inside, List.length_append]
  rfl

end LiterateTest.Expression
