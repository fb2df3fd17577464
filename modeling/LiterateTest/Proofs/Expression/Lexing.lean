import LiterateTest.Expression.Lexer

/-! Tokens end where blanks and closing parentheses begin, so that a text can be lexed apart from
what follows it. -/

namespace LiterateTest.Expression

open Text

/-! ## Characters of words -/

theorem isWordRest_of_isDigit {c : Char} (digit : c.isDigit = true) : isWordRest c = true := by
  simp [isWordRest, Char.isAlphanum, digit]

theorem isWordRest_of_isWordStart {c : Char} (starts : isWordStart c = true) :
    isWordRest c = true := by
  rw [isWordStart, Bool.or_eq_true] at starts
  rw [isWordRest, Char.isAlphanum, Bool.or_eq_true, Bool.or_eq_true]
  exact starts.imp .inl id

/-! ## Characters between tokens -/

/-- Whether a text begins with a character that ends any token before it, other than a string. -/
def Separates (text : List Char) : Prop :=
  ∀ c, text.head? = some c → isAsciiBlank c = true ∨ c = ')'

theorem separates_blank {c : Char} {rest : List Char} (blank : isAsciiBlank c = true) :
    Separates (c :: rest) := by
  intro other head
  cases head
  exact .inl blank

theorem separates_closer (rest : List Char) : Separates (')' :: rest) := by
  intro other head
  cases head
  exact .inr rfl

theorem separator_cases {c : Char} (separator : isAsciiBlank c = true ∨ c = ')') :
    c = ' ' ∨ c = '\t' ∨ c = '\n' ∨ c = '\r' ∨ c = '\x0c' ∨ c = ')' := by
  simpa [isAsciiBlank, or_assoc] using separator

theorem isWordRest_of_separator {c : Char} (separator : isAsciiBlank c = true ∨ c = ')') :
    isWordRest c = false := by
  rcases separator_cases separator with rfl | rfl | rfl | rfl | rfl | rfl <;> decide

theorem isDigit_of_separator {c : Char} (separator : isAsciiBlank c = true ∨ c = ')') :
    c.isDigit = false := by
  rcases separator_cases separator with rfl | rfl | rfl | rfl | rfl | rfl <;> decide

theorem operatorPair?_of_separator {first c : Char} (separator : isAsciiBlank c = true ∨ c = ')') :
    operatorPair? first c = none := by
  rcases separator_cases separator with rfl | rfl | rfl | rfl | rfl | rfl <;>
    simp [operatorPair?]

theorem takeWhile_append_separates {holds : Char → Bool} {text more : List Char}
    (stops : ∀ c, isAsciiBlank c = true ∨ c = ')' → holds c = false) (separates : Separates more) :
    (text ++ more).takeWhile holds = text.takeWhile holds := by
  induction text with
  | nil =>
      cases more with
      | nil => rfl
      | cons c rest =>
          rw [List.nil_append, List.takeWhile_cons, stops c (separates c rfl)]
          rfl
  | cons c rest induction =>
      rw [List.cons_append, List.takeWhile_cons, List.takeWhile_cons, induction]

/-! ## Strings -/

theorem lexString?_cons {quote c : Char} (plain : c ≠ '\\') (rest : List Char) :
    lexString? quote (c :: rest) =
      if c = quote then some ([], 1)
      else (lexString? quote rest).map fun (text, taken) => (c :: text, taken + 1) := by
  rw [lexString?.eq_def]
  split
  · next none => cases none
  · next same =>
      cases same
      exact absurd rfl plain
  · next same =>
      cases same
      exact absurd rfl plain
  · next same =>
      cases same
      rfl

theorem ne_backslash {c : Char} {rest : List Char} (notLast : c = '\\' → rest = [] → False)
    (notEscape : ∀ escaped tail, c = '\\' → rest = escaped :: tail → False) : c ≠ '\\' := by
  intro same
  cases rest with
  | nil => exact notLast same rfl
  | cons escaped tail => exact notEscape escaped tail same rfl

theorem lexString?_append {quote : Char} {text inside : List Char} {taken : Nat}
    (more : List Char) (found : lexString? quote text = some (inside, taken)) :
    lexString? quote (text ++ more) = some (inside, taken) ∧ taken ≤ text.length := by
  fun_induction lexString? quote text generalizing inside taken with
  | case1 => cases found
  | case2 => cases found
  | case3 escaped rest induction =>
      rcases Option.map_eq_some_iff.mp found with ⟨⟨before, count⟩, isBefore, same⟩
      cases same
      rcases induction isBefore with ⟨extended, short⟩
      refine ⟨?_, by simp only [List.length_cons]; omega⟩
      rw [List.cons_append, List.cons_append, lexString?, extended]
      rfl
  | case4 rest notLast notEscape =>
      cases found
      refine ⟨?_, by simp⟩
      rw [List.cons_append, lexString?_cons (ne_backslash notLast notEscape), if_pos rfl]
  | case5 c rest notLast notEscape other induction =>
      rcases Option.map_eq_some_iff.mp found with ⟨⟨before, count⟩, isBefore, same⟩
      cases same
      rcases induction isBefore with ⟨extended, short⟩
      refine ⟨?_, by simp only [List.length_cons]; omega⟩
      rw [List.cons_append, lexString?_cons (ne_backslash notLast notEscape), if_neg other,
        extended]
      rfl

/-! ## Numbers -/

namespace NumberText

variable {text more : List Char}

theorem fractionOf_append (separates : Separates more) :
    fractionOf (text ++ more) = fractionOf text := by
  cases text with
  | nil =>
      cases more with
      | nil => rfl
      | cons c rest =>
          rcases separator_cases (separates c rfl) with rfl | rfl | rfl | rfl | rfl | rfl <;> rfl
  | cons c rest =>
      rw [List.cons_append, fractionOf.eq_def, fractionOf.eq_def]
      split
      · next same =>
          cases same
          exact takeWhile_append_separates (fun _ => isDigit_of_separator) separates
      · next notPoint =>
          split
          · next same =>
              cases same
              exact absurd rfl (notPoint _)
          · rfl

def fractionEnd (text : List Char) : Nat :=
  if (fractionOf text).isEmpty then 0 else (fractionOf text).length + 1

theorem fractionEnd_append (separates : Separates more) :
    fractionEnd (text ++ more) = fractionEnd text := by
  rw [fractionEnd, fractionOf_append separates, fractionEnd]

theorem fractionEnd_le : fractionEnd text ≤ text.length := by
  rw [fractionEnd, fractionOf.eq_def]
  split
  · next rest =>
      have digits : (rest.takeWhile Char.isDigit).length ≤ rest.length :=
        (List.takeWhile_sublist _).length_le
      rw [List.length_cons]
      split <;> omega
  · exact Nat.zero_le _

def signOf : List Char → List Char
  | '+' :: _ => ['+']
  | '-' :: _ => ['-']
  | _ => []

theorem exponentOf_cons (mark : Char) (rest : List Char) :
    exponentOf (mark :: rest) =
      if mark = 'e' || mark = 'E' then
        let digits := (rest.drop (signOf rest).length).takeWhile Char.isDigit
        if digits.isEmpty then [] else mark :: signOf rest ++ digits
      else [] := rfl

theorem signOf_append (separates : Separates more) : signOf (text ++ more) = signOf text := by
  cases text with
  | nil =>
      cases more with
      | nil => rfl
      | cons c rest =>
          rcases separator_cases (separates c rfl) with rfl | rfl | rfl | rfl | rfl | rfl <;> rfl
  | cons c rest =>
      rw [List.cons_append, signOf.eq_def, signOf.eq_def]
      split
      · next same =>
          cases same
          rfl
      · next same =>
          cases same
          rfl
      · next notPlus notMinus =>
          split
          · next same =>
              cases same
              exact absurd rfl (notPlus _)
          · next same =>
              cases same
              exact absurd rfl (notMinus _)
          · rfl

theorem length_signOf : (signOf text).length ≤ text.length := by
  rw [signOf.eq_def]
  split <;> simp

theorem exponentOf_append (separates : Separates more) :
    exponentOf (text ++ more) = exponentOf text := by
  cases text with
  | nil =>
      cases more with
      | nil => rfl
      | cons c rest =>
          rw [List.nil_append, exponentOf_cons]
          rcases separator_cases (separates c rfl) with rfl | rfl | rfl | rfl | rfl | rfl <;> rfl
  | cons mark rest =>
      rw [List.cons_append, exponentOf_cons, exponentOf_cons, signOf_append separates,
        List.drop_append_of_le_length length_signOf,
        takeWhile_append_separates (fun _ => isDigit_of_separator) separates]

theorem length_exponentOf : (exponentOf text).length ≤ text.length := by
  cases text with
  | nil => exact Nat.le_refl 0
  | cons mark rest =>
      rw [exponentOf_cons]
      split
      · have digits : ((rest.drop (signOf rest).length).takeWhile Char.isDigit).length ≤
            (rest.drop (signOf rest).length).length := (List.takeWhile_sublist _).length_le
        have sign : (signOf rest).length ≤ rest.length := length_signOf
        rw [List.length_drop] at digits
        dsimp only
        split
        · exact Nat.zero_le _
        · simp only [List.length_cons, List.length_append]
          omega
      · exact Nat.zero_le _

theorem ofChars_eq (text : List Char) :
    let whole := text.takeWhile Char.isDigit
    let afterWhole := text.drop whole.length
    ofChars text =
      ⟨whole, fractionOf afterWhole, exponentOf (afterWhole.drop (fractionEnd afterWhole))⟩ := rfl

theorem length_whole_le : (text.takeWhile Char.isDigit).length ≤ text.length :=
  (List.takeWhile_sublist _).length_le

theorem ofChars_append (separates : Separates more) : ofChars (text ++ more) = ofChars text := by
  have whole : (text ++ more).takeWhile Char.isDigit = text.takeWhile Char.isDigit :=
    takeWhile_append_separates (fun _ => isDigit_of_separator) separates
  rw [ofChars_eq, ofChars_eq, whole, List.drop_append_of_le_length length_whole_le,
    fractionOf_append separates, fractionEnd_append separates,
    List.drop_append_of_le_length fractionEnd_le, exponentOf_append separates]

theorem length_ofChars : (ofChars text).length ≤ text.length := by
  have whole : (text.takeWhile Char.isDigit).length ≤ text.length := length_whole_le
  let afterWhole := text.drop (text.takeWhile Char.isDigit).length
  have fraction : fractionEnd afterWhole ≤ afterWhole.length := fractionEnd_le
  have exponent : (exponentOf (afterWhole.drop (fractionEnd afterWhole))).length ≤
      (afterWhole.drop (fractionEnd afterWhole)).length := length_exponentOf
  rw [List.length_drop] at exponent
  have sizeAfter : afterWhole.length = text.length - (text.takeWhile Char.isDigit).length :=
    List.length_drop
  change (text.takeWhile Char.isDigit).length + fractionEnd afterWhole +
    (exponentOf (afterWhole.drop (fractionEnd afterWhole))).length ≤ text.length
  omega

end NumberText

/-! ## Single tokens -/

theorem lexOperator_append {c : Char} {rest more : List Char} {token : Token} {ahead : Nat}
    (found : lexOperator c rest = .ok (token, ahead)) (separates : Separates more) :
    lexOperator c (rest ++ more) = .ok (token, ahead) ∧ ahead ≤ rest.length := by
  cases rest with
  | nil =>
      have noPair : ([] ++ more).head?.bind (operatorPair? c) = none := by
        cases more with
        | nil => rfl
        | cons next others => exact operatorPair?_of_separator (separates next rfl)
      rw [lexOperator, noPair]
      refine ⟨found, ?_⟩
      rw [lexOperator] at found
      dsimp only [List.head?_nil, Option.bind_none] at found
      split at found
      · cases found
        exact Nat.le_refl 0
      · cases found
  | cons next others =>
      refine ⟨found, ?_⟩
      rw [lexOperator] at found
      split at found
      · cases found
        simp
      · split at found
        · cases found
          exact Nat.zero_le _
        · cases found

theorem ok_of_map {ε α β : Type} {result : Except ε α} {change : α → β} {changed : β}
    (ok : result.map change = .ok changed) :
    ∃ value, result = .ok value ∧ change value = changed := by
  cases result with
  | error fault => cases ok
  | ok value => exact ⟨value, rfl, Except.ok.inj ok⟩

theorem lexToken_append {c : Char} {rest more : List Char} {token : Token} {ahead : Nat}
    (found : lexToken c rest = .ok (token, ahead)) (separates : Separates more) :
    lexToken c (rest ++ more) = .ok (token, ahead) ∧ ahead ≤ rest.length := by
  rw [lexToken] at found ⊢
  split
  · next quote =>
      rw [if_pos quote] at found
      split at found
      · next inside taken string =>
          cases found
          have whole := lexString?_append more string
          rw [whole.1]
          exact ⟨rfl, whole.2⟩
      · cases found
  · next noQuote =>
      rw [if_neg noQuote] at found
      split
      · next digit =>
          rw [if_pos digit] at found
          rw [← List.cons_append, NumberText.ofChars_append separates]
          refine ⟨found, ?_⟩
          have short : (NumberText.ofChars (c :: rest)).length ≤ rest.length + 1 :=
            NumberText.length_ofChars
          rcases ok_of_map found with ⟨value, -, same⟩
          cases same
          omega
      · next noDigit =>
          rw [if_neg noDigit] at found
          split
          · next word =>
              rw [if_pos word] at found
              rw [takeWhile_append_separates (fun _ => isWordRest_of_separator) separates]
              refine ⟨found, ?_⟩
              cases found
              exact (List.takeWhile_sublist _).length_le
          · next noWord =>
              rw [if_neg noWord] at found
              exact lexOperator_append found separates

/-! ## Whole texts -/

theorem map_append_nil (result : Except (Nat × LexFault) (List Lexeme)) :
    result.map ([] ++ ·) = result := by
  cases result <;> rfl

theorem scan_append {offset ahead : Nat} {text more : List Char} {lexemes : List Lexeme}
    (found : scan offset ahead text = .ok lexemes) (short : ahead ≤ text.length)
    (separates : Separates more) :
    scan offset ahead (text ++ more) =
      (scan (offset + utf8Length text) 0 more).map (lexemes ++ ·) := by
  induction text generalizing offset ahead lexemes with
  | nil =>
      have none : ahead = 0 := by simpa using short
      subst ahead
      cases found
      rw [map_append_nil]
      rfl
  | cons c rest induction =>
      have size : offset + c.utf8Size + utf8Length rest = offset + utf8Length (c :: rest) := by
        simp [utf8Length, Nat.add_assoc]
      cases ahead with
      | succ ahead =>
          rw [scan] at found
          rw [List.cons_append, scan, induction found (by simpa using short), size]
      | zero =>
          rw [scan] at found
          rw [List.cons_append, scan]
          split
          · next blank =>
              rw [if_pos blank] at found
              rw [induction found (Nat.zero_le _), size]
          · next visible =>
              rw [if_neg visible] at found
              split at found
              · cases found
              · next token ahead isToken =>
                  rcases ok_of_map found with ⟨others, isOthers, rfl⟩
                  have whole := lexToken_append isToken separates
                  rw [whole.1]
                  dsimp only
                  rw [induction isOthers whole.2, size]
                  cases scan (offset + utf8Length (c :: rest)) 0 more <;> rfl

theorem scan_moved {offset ahead : Nat} {text : List Char} {lexemes : List Lexeme}
    (found : scan offset ahead text = .ok lexemes) (other : Nat) :
    ∃ moved, scan other ahead text = .ok moved ∧
      moved.map Lexeme.token = lexemes.map Lexeme.token := by
  induction text generalizing offset other ahead lexemes with
  | nil =>
      have none : lexemes = [] := by
        cases ahead <;> cases found <;> rfl
      exact ⟨[], by cases ahead <;> rfl, by rw [none]⟩
  | cons c rest induction =>
      cases ahead with
      | succ ahead =>
          rw [scan] at found ⊢
          exact induction found _
      | zero =>
          rw [scan] at found ⊢
          split
          · next blank =>
              rw [if_pos blank] at found
              exact induction found _
          · next visible =>
              rw [if_neg visible] at found
              split at found
              · cases found
              · next token ahead isToken =>
                  rcases ok_of_map found with ⟨others, isOthers, rfl⟩
                  rcases induction isOthers (other + c.utf8Size) with ⟨moved, isMoved, same⟩
                  rw [isMoved]
                  exact ⟨⟨token, other⟩ :: moved, rfl, by simp [same]⟩

/-- A text has the given tokens, wherever it starts. -/
def HasTokens (text : List Char) (tokens : List Token) : Prop :=
  ∀ offset, ∃ lexemes, scan offset 0 text = .ok lexemes ∧ lexemes.map Lexeme.token = tokens

theorem hasTokens_of_scan {offset : Nat} {text : List Char} {lexemes : List Lexeme}
    (found : scan offset 0 text = .ok lexemes) : HasTokens text (lexemes.map Lexeme.token) :=
  fun other => scan_moved found other

theorem HasTokens.append {text more : List Char} {tokens moreTokens : List Token}
    (first : HasTokens text tokens) (second : HasTokens more moreTokens)
    (separates : Separates more) : HasTokens (text ++ more) (tokens ++ moreTokens) := by
  intro offset
  rcases first offset with ⟨lexemes, found, rfl⟩
  rcases second (offset + utf8Length text) with ⟨others, foundOthers, rfl⟩
  refine ⟨lexemes ++ others, ?_, by simp⟩
  rw [scan_append found (Nat.zero_le _) separates, foundOthers]
  rfl

/-! ## Joined texts -/

theorem HasTokens.conjoined {text : List Char} {tokens : List Token}
    (hasTokens : HasTokens text tokens) :
    HasTokens (' ' :: '&' :: '&' :: ' ' :: text) (.andAnd :: tokens) := by
  intro offset
  rcases hasTokens (offset + 4) with ⟨lexemes, found, rfl⟩
  refine ⟨⟨.andAnd, offset + 1⟩ :: lexemes, ?_, rfl⟩
  have parts : scan offset 0 (' ' :: '&' :: '&' :: ' ' :: text) =
      (scan (offset + 4) 0 text).map (⟨.andAnd, offset + 1⟩ :: ·) := rfl
  rw [parts, found]
  rfl

theorem lexOperator_single {c : Char} {token : Token} (isOperator : operator? c = some token)
    (noPair : ∀ next, operatorPair? c next = none) (rest : List Char) :
    lexOperator c rest = .ok (token, 0) := by
  have single : rest.head?.bind (operatorPair? c) = none := by
    cases rest with
    | nil => rfl
    | cons next others => exact noPair next
  rw [lexOperator, single]
  dsimp only
  rw [isOperator]

theorem lexToken_leftParen (rest : List Char) : lexToken '(' rest = .ok (.leftParen, 0) :=
  lexOperator_single rfl (by simp [operatorPair?]) rest

theorem HasTokens.grouped {text : List Char} {tokens : List Token}
    (hasTokens : HasTokens text tokens) :
    HasTokens ('(' :: text ++ [')']) (.leftParen :: (tokens ++ [.rightParen])) := by
  intro offset
  have closing : HasTokens [')'] [.rightParen] := fun offset => ⟨[⟨.rightParen, offset⟩], rfl, rfl⟩
  rcases hasTokens.append closing (separates_closer []) (offset + 1) with ⟨lexemes, found, same⟩
  refine ⟨⟨.leftParen, offset⟩ :: lexemes, ?_, by simp [same]⟩
  have parts : scan offset 0 ('(' :: text ++ [')']) =
      (scan (offset + 1) 0 (text ++ [')'])).map (⟨.leftParen, offset⟩ :: ·) := by
    rw [List.cons_append, scan, if_neg (by decide), lexToken_leftParen]
    rfl
  rw [parts, found]
  rfl

/-! ## Disjunctions -/

theorem ofWord_ne_orOr (name : String) : Token.ofWord name ≠ .orOr := by
  rw [Token.ofWord]
  split <;> (try split) <;> (try split) <;> (try split) <;> exact Token.noConfusion

theorem token_ne_orOr {number : NumberText} : number.token ≠ .ok .orOr := by
  intro found
  rw [NumberText.token] at found
  split at found
  · dsimp only at found
    split at found <;> cases found
  · cases found

theorem lexOperator_orOr {c : Char} {rest : List Char} {ahead : Nat}
    (found : lexOperator c rest = .ok (.orOr, ahead)) : c = '|' ∧ rest.head? = some '|' := by
  rw [lexOperator] at found
  split at found
  · next token isPair =>
      cases found
      rcases Option.bind_eq_some_iff.mp isPair with ⟨next, isNext, pair⟩
      rw [operatorPair?.eq_def] at pair
      split at pair <;> first | exact ⟨rfl, isNext⟩ | cases pair
  · split at found
    · next token isOperator =>
        cases found
        rw [operator?.eq_def] at isOperator
        split at isOperator <;> cases isOperator
    · cases found

theorem lexToken_orOr {c : Char} {rest : List Char} {ahead : Nat}
    (found : lexToken c rest = .ok (.orOr, ahead)) : c = '|' ∧ rest.head? = some '|' := by
  rw [lexToken] at found
  split at found
  · split at found <;> cases found
  · split at found
    · rcases ok_of_map found with ⟨value, isValue, same⟩
      cases same
      exact absurd isValue token_ne_orOr
    · split at found
      · have same := congrArg Prod.fst (Except.ok.inj found)
        exact absurd same (ofWord_ne_orOr _)
      · exact lexOperator_orOr found

theorem containsChars_of_orOr {offset ahead : Nat} {text : List Char} {lexemes : List Lexeme}
    (found : scan offset ahead text = .ok lexemes)
    (member : .orOr ∈ lexemes.map Lexeme.token) : containsChars ['|', '|'] text = true := by
  induction text generalizing offset ahead lexemes with
  | nil =>
      have none : lexemes = [] := by
        cases ahead <;> cases found <;> rfl
      rw [none] at member
      cases member
  | cons c rest induction =>
      rw [containsChars, Bool.or_eq_true]
      cases ahead with
      | succ ahead =>
          rw [scan] at found
          exact .inr (induction found member)
      | zero =>
          rw [scan] at found
          split at found
          · exact .inr (induction found member)
          · split at found
            · cases found
            · next token ahead isToken =>
                rcases ok_of_map found with ⟨others, isOthers, rfl⟩
                rw [List.map_cons, List.mem_cons] at member
                rcases member with same | member
                · left
                  cases same
                  have pair := lexToken_orOr isToken
                  cases rest with
                  | nil => cases pair.2
                  | cons next others =>
                      cases pair.1
                      cases pair.2
                      simp [List.isPrefixOf]
                · exact .inr (induction isOthers member)

end LiterateTest.Expression
