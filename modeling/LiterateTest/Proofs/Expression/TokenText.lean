import LiterateTest.Proofs.Expression.Spelling
import LiterateTest.Proofs.Expression.TokenEnd
import Mathlib.Data.List.TakeWhile

/-! The text of a token. The characters that the lexer takes for a token are read as the same token
when nothing stands behind them. -/

namespace LiterateTest.Expression

open Text

/-! ## Strings -/

theorem lexString?_take {quote : Char} {text inside : List Char} {taken : Nat}
    (found : lexString? quote text = some (inside, taken)) :
    lexString? quote (text.take taken) = some (inside, taken) := by
  fun_induction lexString? quote text generalizing inside taken with
  | case1 => cases found
  | case2 => cases found
  | case3 escaped rest induction =>
      rcases Option.map_eq_some_iff.mp found with ⟨⟨before, count⟩, isBefore, same⟩
      cases same
      rw [List.take_succ_cons, List.take_succ_cons, lexString?, induction isBefore]
      rfl
  | case4 rest notLast notEscape =>
      cases found
      rw [List.take_succ_cons, lexString?_cons (ne_backslash notLast notEscape), if_pos rfl]
  | case5 c rest notLast notEscape other induction =>
      rcases Option.map_eq_some_iff.mp found with ⟨⟨before, count⟩, isBefore, same⟩
      cases same
      rw [List.take_succ_cons, lexString?_cons (ne_backslash notLast notEscape), if_neg other,
        induction isBefore]
      rfl

/-! ## Numbers -/

theorem takeWhile_append_of_stops {holds : Char → Bool} {text more : List Char}
    (all : ∀ c ∈ text, holds c = true) (stops : ∀ c ∈ more.head?, holds c = false) :
    (text ++ more).takeWhile holds = text := by
  rw [List.takeWhile_append_of_pos all]
  cases more with
  | nil => simp
  | cons c more => simp [stops c rfl]

theorem holds_of_mem_takeWhile {holds : Char → Bool} {text : List Char} :
    ∀ c ∈ text.takeWhile holds, holds c = true :=
  List.all_eq_true.mp List.all_takeWhile

namespace NumberText

variable {text after : List Char}

theorem isDigit_of_mem_fractionOf : ∀ c ∈ fractionOf text, c.isDigit = true := by
  intro c member
  rw [fractionOf.eq_def] at member
  split at member
  · exact holds_of_mem_takeWhile c member
  · cases member

theorem head_exponentOf : ∀ c ∈ (exponentOf text).head?, c = 'e' ∨ c = 'E' := by
  intro c first
  cases text with
  | nil => cases first
  | cons mark rest =>
      rw [exponentOf_cons] at first
      split at first
      · next isMark =>
          dsimp only at first
          split at first
          · cases first
          · cases first
            simpa using isMark
      · cases first

theorem head_fractionSpelling :
    ∀ c ∈ (fractionSpelling text ++ exponentOf after).head?, c = '.' ∨ c = 'e' ∨ c = 'E' := by
  intro c first
  rw [fractionSpelling] at first
  split at first
  · exact .inr (head_exponentOf c first)
  · cases first
    exact .inl rfl

theorem fractionOf_spelling :
    fractionOf (fractionSpelling text ++ exponentOf after) = fractionOf text := by
  rw [fractionSpelling]
  split
  · next empty =>
      rw [List.nil_append, List.isEmpty_iff.mp empty, fractionOf.eq_def]
      split
      · next starts =>
          have mark := head_exponentOf '.' (by rw [starts]; rfl)
          rcases mark with mark | mark <;> cases mark
      · rfl
  · have stops : ∀ c ∈ (exponentOf after).head?, c.isDigit = false := by
      intro c first
      rcases head_exponentOf c first with rfl | rfl <;> rfl
    rw [List.cons_append, fractionOf, takeWhile_append_of_stops isDigit_of_mem_fractionOf stops]

theorem fractionEnd_spelling :
    fractionEnd (fractionSpelling text ++ exponentOf after) = (fractionSpelling text).length := by
  rw [fractionEnd, fractionOf_spelling, length_fractionSpelling, fractionEnd]

theorem signOf_spelling {digits : List Char} (isDigits : ∀ c ∈ digits, c.isDigit = true) :
    signOf (signOf text ++ digits) = signOf text := by
  rw [signOf.eq_def text]
  split
  · rfl
  · rfl
  · rw [List.nil_append, signOf.eq_def]
    split
    · have digit := isDigits '+' List.mem_cons_self
      cases digit
    · have digit := isDigits '-' List.mem_cons_self
      cases digit
    · rfl

theorem exponentOf_exponentOf : exponentOf (exponentOf text) = exponentOf text := by
  cases text with
  | nil => rfl
  | cons mark rest =>
      rw [exponentOf_cons]
      split
      · next isMark =>
          dsimp only
          split
          · rfl
          · next nonempty =>
              rw [List.cons_append, exponentOf_cons, if_pos isMark,
                signOf_spelling holds_of_mem_takeWhile, List.drop_left,
                List.takeWhile_eq_self_iff.mpr holds_of_mem_takeWhile]
              dsimp only
              rw [if_neg nonempty]
              rfl
      · rfl

def spelling (text : List Char) : List Char :=
  let whole := text.takeWhile Char.isDigit
  let afterWhole := text.drop whole.length
  whole ++ (fractionSpelling afterWhole ++ exponentOf (afterWhole.drop (fractionEnd afterWhole)))

theorem length_spelling : (spelling text).length = (ofChars text).length := by
  simp only [spelling, List.length_append, length_fractionSpelling, ← Nat.add_assoc]
  rfl

theorem spelling_prefix : spelling text <+: text := by
  apply prefix_append (List.takeWhile_prefix _)
  apply prefix_append fractionSpelling_prefix
  rw [length_fractionSpelling]
  exact exponentOf_prefix

theorem ofChars_spelling : ofChars (spelling text) = ofChars text := by
  let whole := text.takeWhile Char.isDigit
  let afterWhole := text.drop whole.length
  let exponent := exponentOf (afterWhole.drop (fractionEnd afterWhole))
  have stops : ∀ c ∈ (fractionSpelling afterWhole ++ exponent).head?, c.isDigit = false := by
    intro c first
    rcases head_fractionSpelling c first with rfl | rfl | rfl <;> rfl
  have isWhole : (spelling text).takeWhile Char.isDigit = whole :=
    takeWhile_append_of_stops holds_of_mem_takeWhile stops
  have after : (spelling text).drop whole.length = fractionSpelling afterWhole ++ exponent :=
    List.drop_left
  rw [ofChars_eq, ofChars_eq, isWhole, after, fractionOf_spelling, fractionEnd_spelling,
    List.drop_left, exponentOf_exponentOf]

theorem spelling_eq_take : spelling text = text.take (ofChars text).length := by
  rw [← length_spelling]
  exact List.prefix_iff_eq_take.mp spelling_prefix

theorem ofChars_take : ofChars (text.take (ofChars text).length) = ofChars text := by
  rw [← spelling_eq_take, ofChars_spelling]

theorem length_pos {c : Char} {rest : List Char} (digit : c.isDigit = true) :
    0 < (ofChars (c :: rest)).length := by
  rw [ofChars_eq, length, List.takeWhile_cons, if_pos digit, List.length_cons]
  omega

end NumberText

/-! ## Tokens -/

theorem lexOperator_take {c : Char} {rest : List Char} {token : Token} {ahead : Nat}
    (found : lexOperator c rest = .ok (token, ahead)) :
    lexOperator c (rest.take ahead) = .ok (token, ahead) := by
  rw [lexOperator] at found
  split at found
  · next isPair =>
      cases found
      rcases Option.bind_eq_some_iff.mp isPair with ⟨next, isNext, pair⟩
      rcases List.head?_eq_some_iff.mp isNext with ⟨others, rfl⟩
      rw [lexOperator, List.take_succ_cons, List.head?_cons, Option.bind_some, pair]
  · split at found
    · next isOperator =>
        cases found
        rw [lexOperator, List.take_zero, List.head?_nil, Option.bind_none, isOperator]
    · cases found

theorem ahead_le {c : Char} {rest : List Char} {token : Token} {ahead : Nat}
    (found : lexToken c rest = .ok (token, ahead)) : ahead ≤ rest.length := by
  have separates : Separates [] := by
    rintro c ⟨⟩
  exact (lexToken_append found separates).2

theorem scan_ahead {c : Char} {rest : List Char} {token : Token} {ahead : Nat}
    (found : lexToken c rest = .ok (token, ahead)) (offset : Nat) :
    scan (offset + c.utf8Size) ahead rest =
      scan (offset + utf8Length (c :: rest.take ahead)) 0 (rest.drop ahead) := by
  have passed : (rest.take ahead).length = ahead := List.length_take_of_le (ahead_le found)
  have size : offset + c.utf8Size + utf8Length (rest.take ahead) =
      offset + utf8Length (c :: rest.take ahead) := by
    simp [utf8Length, Nat.add_assoc]
  have skipped := scan_passed (offset + c.utf8Size) (rest.take ahead) (rest.drop ahead)
  rwa [passed, List.take_append_drop, size] at skipped

/-- A token is read from its own characters as it is read from the text. -/
theorem lexToken_take {c : Char} {rest : List Char} {token : Token} {ahead : Nat}
    (found : lexToken c rest = .ok (token, ahead)) :
    lexToken c (rest.take ahead) = .ok (token, ahead) := by
  rw [lexToken] at found ⊢
  split
  · next quote =>
      rw [if_pos quote] at found
      split at found
      · next string =>
          cases found
          rw [lexString?_take string]
      · cases found
  · next noQuote =>
      rw [if_neg noQuote] at found
      split
      · next digit =>
          rw [if_pos digit] at found
          have positive : 0 < (NumberText.ofChars (c :: rest)).length := NumberText.length_pos digit
          rcases ok_of_map found with ⟨value, isValue, same⟩
          cases same
          have whole : c :: rest.take ((NumberText.ofChars (c :: rest)).length - 1) =
              (c :: rest).take (NumberText.ofChars (c :: rest)).length := by
            rw [List.take_cons positive]
          rw [whole, NumberText.ofChars_take]
          exact found
      · next noDigit =>
          rw [if_neg noDigit] at found
          split
          · next word =>
              rw [if_pos word] at found
              cases found
              rw [← List.prefix_iff_eq_take.mp (List.takeWhile_prefix isWordRest),
                List.takeWhile_eq_self_iff.mpr holds_of_mem_takeWhile]
          · next noWord =>
              rw [if_neg noWord] at found
              exact lexOperator_take found

theorem scan_taken {c : Char} {rest : List Char} {token : Token} {ahead : Nat}
    (found : lexToken c rest = .ok (token, ahead)) (visible : isAsciiBlank c = false)
    (offset : Nat) : scan offset 0 (c :: rest.take ahead) = .ok [⟨token, offset⟩] := by
  have notBlank : ¬isAsciiBlank c = true := by simp [visible]
  have passed : (rest.take ahead).length = ahead :=
    List.length_take_of_le (ahead_le found)
  have nothing := scan_passed (offset + c.utf8Size) (rest.take ahead) []
  rw [passed, List.append_nil] at nothing
  rw [scan, if_neg notBlank, lexToken_take found]
  dsimp only
  rw [nothing]
  rfl

end LiterateTest.Expression
