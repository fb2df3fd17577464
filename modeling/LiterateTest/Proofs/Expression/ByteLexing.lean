import LiterateTest.Proofs.Expression.TokenText
import LiterateTest.Proofs.Text.Byte

/-! Tokens from bytes: a lexer that looks at one byte at a time, keeps its place as a number of
bytes, and cuts the text between two such places. It never cuts where that cannot be done, and
gives what the lexer of characters gives. -/

namespace LiterateTest.Expression

open Text

/-! ## Lexing by bytes -/

namespace ByteLexer

def unexpected (byte : Char) : String :=
  "unexpected character '" ++ String.singleton byte ++ "'"

def message : LexFault → String
  | .unexpectedCharacter byte => unexpected byte
  | .unterminatedString => LexFault.unterminatedString.message
  | .integerTooLarge digits => (LexFault.integerTooLarge digits).message

def stringAt (position : Nat) : List Char → Except LexFault (Token × Nat)
  | [] => .error .unterminatedString
  | quote :: inside =>
      match lexString? quote inside with
      | some (content, taken) =>
          .ok (.string (String.ofList content),
            position + utf8Length (quote :: inside.take taken))
      | none => .error .unterminatedString

/-- The token that starts at a byte, which is `current`, and the byte behind it. There is no answer
if the text is cut wrongly. -/
def tokenAt? (text : List Char) (position : Nat) (current : Char) :
    Option (Except LexFault (Token × Nat)) :=
  let bytes := (byteChars text).drop position
  if current = '"' ∨ current = '\'' then
    (fromByte? text position).map (stringAt position)
  else if current.isDigit then
    let stop := position + (NumberText.ofChars bytes).length
    (slice? text position stop).map fun number =>
      (NumberText.ofChars number).token.map fun token => (token, stop)
  else if isWordStart current then
    let stop := position + (bytes.takeWhile isWordRest).length
    (slice? text position stop).map fun word => .ok (Token.ofWord (String.ofList word), stop)
  else
    some ((lexOperator current (bytes.drop 1)).map fun (token, ahead) =>
      (token, position + 1 + ahead))

def scanFrom? (text : List Char) : (steps position : Nat) →
    Option (Except (Nat × String) (List Lexeme))
  | 0, _ => none
  | steps + 1, position =>
      match (byteChars text)[position]? with
      | none => some (.ok [])
      | some current =>
          if isAsciiBlank current then scanFrom? text steps (position + 1)
          else
            match tokenAt? text position current with
            | none => none
            | some (.error fault) => some (.error (position, message fault))
            | some (.ok (token, next)) =>
                (scanFrom? text steps next).map (·.map (⟨token, position⟩ :: ·))

def tokenize? (source : String) : Option (Except (Nat × String) (List Lexeme)) :=
  scanFrom? source.toList (source.utf8ByteSize + 1) 0

end ByteLexer

/-! ## What is sought is ASCII -/

theorem seeksAscii_isDigit : SeeksAscii Char.isDigit := by
  intro c digit
  rw [Char.isDigit, Bool.and_eq_true, decide_eq_true_iff, decide_eq_true_iff] at digit
  have bound := UInt32.le_iff_toNat_le.mp digit.2
  exact Nat.lt_of_le_of_lt bound (by decide)

theorem seeksAscii_isWordRest : SeeksAscii isWordRest := by
  intro c word
  have characters : ((decide (65 ≤ c.val ∧ c.val ≤ 90) || (97 ≤ c.val && c.val ≤ 122)) ||
      (48 ≤ c.val && c.val ≤ 57)) || c == '_' := word
  simp only [Bool.or_eq_true, Bool.and_eq_true, decide_eq_true_eq, beq_iff_eq] at characters
  rcases characters with ((upper | lower) | digit) | rfl
  · exact Nat.lt_of_le_of_lt (UInt32.le_iff_toNat_le.mp upper.2) (by decide)
  · exact Nat.lt_of_le_of_lt (UInt32.le_iff_toNat_le.mp lower.2) (by decide)
  · exact Nat.lt_of_le_of_lt (UInt32.le_iff_toNat_le.mp digit.2) (by decide)
  · decide

theorem seeksAscii_isWordStart : SeeksAscii isWordStart :=
  fun c starts => seeksAscii_isWordRest c (isWordRest_of_isWordStart starts)

theorem seeksAscii_isAsciiBlank : SeeksAscii isAsciiBlank := by
  intro c blank
  rcases separator_cases (.inl blank) with rfl | rfl | rfl | rfl | rfl | rfl <;> decide

theorem isAscii_of_goesOn {c : Char} (further : goesOn c = true) : IsAscii c := by
  rw [goesOn, Bool.or_eq_true] at further
  rcases further with word | mark
  · exact seeksAscii_isWordRest c word
  · simp only [List.contains_cons, List.contains_nil, Bool.or_false, Bool.or_eq_true,
      beq_iff_eq] at mark
    rcases mark with rfl | rfl | rfl | rfl | rfl | rfl <;> decide

theorem isAscii_of_operator? {c : Char} {token : Token} (found : operator? c = some token) :
    IsAscii c := by
  rw [operator?.eq_def] at found
  split at found <;> first | decide | cases found

theorem isAscii_of_operatorPair? {c next : Char} {token : Token}
    (found : operatorPair? c next = some token) : IsAscii c ∧ IsAscii next := by
  rw [operatorPair?.eq_def] at found
  split at found <;> first | decide | cases found

theorem operatorPair?_of_wide {c next : Char} (wide : ¬(IsAscii c ∧ IsAscii next)) :
    operatorPair? c next = none :=
  Option.eq_none_iff_forall_ne_some.mpr fun _ found => wide (isAscii_of_operatorPair? found)

theorem lexOperator_of_wide {c : Char} (wide : ¬IsAscii c) (rest : List Char) :
    lexOperator c rest = .error (.unexpectedCharacter c) := by
  have noPair : rest.head?.bind (operatorPair? c) = none := by
    cases rest with
    | nil => rfl
    | cons next others => exact operatorPair?_of_wide fun both => wide both.1
  have noOperator : operator? c = none :=
    Option.eq_none_iff_forall_ne_some.mpr fun _ found => wide (isAscii_of_operator? found)
  rw [lexOperator, noPair, noOperator]

/-! ## Parts of numbers among bytes -/

namespace NumberText

variable {text : List Char}

theorem fractionOf_byteChars : fractionOf (byteChars text) = fractionOf text := by
  cases text with
  | nil => rfl
  | cons c rest =>
      rcases byteChars_cons c rest with ⟨-, same⟩ | ⟨wide, first, more, same, wideFirst⟩
      · rw [same, fractionOf.eq_def, fractionOf.eq_def]
        split
        · next starts =>
            cases starts
            exact takeWhile_byteChars seeksAscii_isDigit rest
        · next noPoint =>
            split
            · next starts =>
                cases starts
                exact absurd rfl (noPoint _)
            · rfl
      · have noPoint : ∀ {other : Char} {others : List Char}, ¬IsAscii other →
            fractionOf (other :: others) = [] := by
          intro other others wideOther
          rw [fractionOf.eq_def]
          split
          · next starts =>
              cases starts
              exact absurd (by decide) wideOther
          · rfl
        rw [same, noPoint wide, noPoint wideFirst]

theorem signOf_byteChars : signOf (byteChars text) = signOf text := by
  cases text with
  | nil => rfl
  | cons c rest =>
      rcases byteChars_cons c rest with ⟨-, same⟩ | ⟨wide, first, more, same, wideFirst⟩
      · rw [same, signOf.eq_def, signOf.eq_def]
        split
        · next starts =>
            cases starts
            rfl
        · next starts =>
            cases starts
            rfl
        · next noPlus noMinus =>
            split
            · next starts =>
                cases starts
                exact absurd rfl (noPlus _)
            · next starts =>
                cases starts
                exact absurd rfl (noMinus _)
            · rfl
      · have noSign : ∀ {other : Char} {others : List Char}, ¬IsAscii other →
            signOf (other :: others) = [] := by
          intro other others wideOther
          rw [signOf.eq_def]
          split
          · next starts =>
              cases starts
              exact absurd (by decide) wideOther
          · next starts =>
              cases starts
              exact absurd (by decide) wideOther
          · rfl
        rw [same, noSign wide, noSign wideFirst]

theorem drop_byteChars_of_prefix {front : List Char} (starts : front <+: text)
    (ascii : ∀ c ∈ front, IsAscii c) :
    (byteChars text).drop front.length = byteChars (text.drop front.length) := by
  rcases starts with ⟨rest, rfl⟩
  rw [drop_byteChars ascii, List.drop_left]

theorem exponentOf_byteChars : exponentOf (byteChars text) = exponentOf text := by
  cases text with
  | nil => rfl
  | cons mark rest =>
      rcases byteChars_cons mark rest with ⟨-, same⟩ | ⟨wide, first, more, same, wideFirst⟩
      · have signAscii : ∀ c ∈ signOf rest, IsAscii c :=
          fun c member => isAscii_of_goesOn (goesOn_of_mem_signOf member)
        rw [same, exponentOf_cons, exponentOf_cons, signOf_byteChars,
          drop_byteChars_of_prefix signOf_prefix signAscii, takeWhile_byteChars seeksAscii_isDigit]
      · have noMark : ∀ {other : Char} {others : List Char}, ¬IsAscii other →
            exponentOf (other :: others) = [] := by
          intro other others wideOther
          rw [exponentOf_cons, if_neg]
          rw [Bool.or_eq_true, decide_eq_true_iff, decide_eq_true_iff]
          rintro (rfl | rfl) <;> exact absurd (by decide) wideOther
        rw [same, noMark wide, noMark wideFirst]

theorem fractionEnd_byteChars : fractionEnd (byteChars text) = fractionEnd text := by
  rw [fractionEnd, fractionOf_byteChars, fractionEnd]

theorem ofChars_byteChars : ofChars (byteChars text) = ofChars text := by
  have wholeAscii : ∀ c ∈ text.takeWhile Char.isDigit, IsAscii c :=
    fun c member => seeksAscii_isDigit c (holds_of_mem_takeWhile c member)
  let afterWhole := text.drop (text.takeWhile Char.isDigit).length
  have afterFraction : (byteChars afterWhole).drop (fractionEnd afterWhole) =
      byteChars (afterWhole.drop (fractionEnd afterWhole)) := by
    rw [← length_fractionSpelling]
    apply drop_byteChars_of_prefix fractionSpelling_prefix
    exact fun c member => isAscii_of_goesOn (goesOn_of_mem_fraction member)
  rw [ofChars_eq, ofChars_eq, takeWhile_byteChars seeksAscii_isDigit,
    drop_byteChars_of_prefix (List.takeWhile_prefix _) wholeAscii, fractionOf_byteChars,
    fractionEnd_byteChars, afterFraction, exponentOf_byteChars]

theorem isAscii_of_mem_spelling : ∀ c ∈ spelling text, IsAscii c := by
  intro c member
  rw [spelling, List.mem_append, List.mem_append] at member
  rcases member with member | member | member
  · exact seeksAscii_isDigit c (holds_of_mem_takeWhile c member)
  · exact isAscii_of_goesOn (goesOn_of_mem_fraction member)
  · exact isAscii_of_goesOn (goesOn_of_mem_exponent member)

end NumberText

theorem lexOperator_byteChars (c : Char) (rest : List Char) :
    lexOperator c (byteChars rest) = lexOperator c rest := by
  have sameNext : (byteChars rest).head?.bind (operatorPair? c) =
      rest.head?.bind (operatorPair? c) := by
    cases rest with
    | nil => rfl
    | cons next others =>
        rcases byteChars_cons next others with ⟨-, same⟩ | ⟨wide, first, more, same, wideFirst⟩
        · rw [same]
          rfl
        · rw [same, List.head?_cons, List.head?_cons, Option.bind_some, Option.bind_some,
            operatorPair?_of_wide fun both => wide both.2,
            operatorPair?_of_wide fun both => wideFirst both.2]
  rw [lexOperator, sameNext, lexOperator]

/-! ## Single tokens -/

theorem head?_byteChars (c : Char) (rest : List Char) :
    (byteChars (c :: rest)).head? = some (Char.ofNat (leadByte c)) := by
  obtain ⟨byte, bytes, encoded⟩ : ∃ byte bytes, String.utf8EncodeChar c = byte :: bytes :=
    List.exists_cons_of_ne_nil String.utf8EncodeChar_ne_nil
  have lead : leadByte c = byte.toNat := by
    rw [leadByte, toList_toUTF8_singleton, encoded]
    rfl
  rw [lead, byteChars, List.flatMap_cons, encoded]
  rfl

theorem ofNat_leadByte {c : Char} (ascii : IsAscii c) : Char.ofNat (leadByte c) = c := by
  have first := head?_byteChars c []
  rw [byteChars_of_isAscii ascii] at first
  exact (Option.some.inj first).symm

theorem not_isAscii_leadByte {c : Char} (wide : ¬IsAscii c) :
    ¬IsAscii (Char.ofNat (leadByte c)) := by
  rcases byteChars_cons c [] with ⟨ascii, -⟩ | ⟨-, first, more, same, wideFirst⟩
  · exact absurd ascii wide
  · have head := head?_byteChars c []
    rw [same] at head
    cases head
    exact wideFirst

theorem lexToken_of_wide {c : Char} (wide : ¬IsAscii c) (rest : List Char) :
    lexToken c rest = .error (.unexpectedCharacter c) := by
  have noQuote : ¬(c = '"' ∨ c = '\'') := by
    rintro (rfl | rfl) <;> exact wide (by decide)
  have noDigit : ¬c.isDigit = true := fun digit => wide (seeksAscii_isDigit c digit)
  have noWord : ¬isWordStart c = true := fun word => wide (seeksAscii_isWordStart c word)
  rw [lexToken, if_neg noQuote, if_neg noDigit, if_neg noWord, lexOperator_of_wide wide]

namespace ByteLexer

def endOf (before : List Char) (c : Char) (rest : List Char) (found : Token × Nat) : Token × Nat :=
  (found.1, utf8Length before + utf8Length (c :: rest.take found.2))

section

variable (before : List Char) {c : Char} {rest : List Char}

theorem slice?_of_prefix {front : List Char} (starts : front <+: c :: rest)
    (ascii : ∀ other ∈ front, IsAscii other) :
    slice? (before ++ c :: rest) (utf8Length before) (utf8Length before + front.length) =
      some front := by
  rcases starts with ⟨others, same⟩
  rw [← same, ← utf8Length_of_isAscii ascii, slice?_append]

theorem tokenAt?_quote (quote : c = '"' ∨ c = '\'') :
    tokenAt? (before ++ c :: rest) (utf8Length before) c =
      some ((lexToken c rest).map (endOf before c rest)) := by
  rw [tokenAt?, if_pos quote, fromByte?_append, Option.map_some, stringAt, lexToken, if_pos quote]
  cases lexString? c rest <;> rfl

theorem tokenAt?_digit (noQuote : ¬(c = '"' ∨ c = '\'')) (digit : c.isDigit = true) :
    tokenAt? (before ++ c :: rest) (utf8Length before) c =
      some ((lexToken c rest).map (endOf before c rest)) := by
  have positive : 0 < (NumberText.ofChars (c :: rest)).length := NumberText.length_pos digit
  have whole := (@NumberText.spelling_eq_take (c :: rest)).symm
  rw [List.take_cons positive] at whole
  have cut := slice?_of_prefix before (@NumberText.spelling_prefix (c :: rest))
    NumberText.isAscii_of_mem_spelling
  rw [NumberText.length_spelling] at cut
  rw [tokenAt?, if_neg noQuote, if_pos digit, drop_utf8Length_byteChars,
    NumberText.ofChars_byteChars, lexToken, if_neg noQuote, if_pos digit]
  dsimp only
  rw [cut, Option.map_some, NumberText.ofChars_spelling]
  have size : utf8Length (c :: rest.take ((NumberText.ofChars (c :: rest)).length - 1)) =
      (NumberText.ofChars (c :: rest)).length := by
    rw [whole, utf8Length_of_isAscii NumberText.isAscii_of_mem_spelling,
      NumberText.length_spelling]
  generalize NumberText.ofChars (c :: rest) = number at size ⊢
  cases number.token with
  | error fault => rfl
  | ok token =>
      change some (Except.ok (token, utf8Length before + number.length)) = some (Except.ok
        (token, utf8Length before + utf8Length (c :: rest.take (number.length - 1))))
      rw [size]

theorem tokenAt?_word (noQuote : ¬(c = '"' ∨ c = '\'')) (noDigit : ¬c.isDigit = true)
    (starts : isWordStart c = true) :
    tokenAt? (before ++ c :: rest) (utf8Length before) c =
      some ((lexToken c rest).map (endOf before c rest)) := by
  let word := c :: rest.takeWhile isWordRest
  have isWord : (c :: rest).takeWhile isWordRest = word := by
    rw [List.takeWhile_cons, if_pos (isWordRest_of_isWordStart starts)]
  have ascii : ∀ other ∈ word, IsAscii other := by
    rw [← isWord]
    exact fun other member => seeksAscii_isWordRest other (holds_of_mem_takeWhile other member)
  have cut := slice?_of_prefix before (isWord ▸ List.takeWhile_prefix isWordRest) ascii
  have taken : c :: rest.take (rest.takeWhile isWordRest).length = word := by
    rw [← List.prefix_iff_eq_take.mp (List.takeWhile_prefix isWordRest)]
  rw [tokenAt?, if_neg noQuote, if_neg noDigit, if_pos starts, drop_utf8Length_byteChars,
    takeWhile_byteChars seeksAscii_isWordRest, isWord, lexToken, if_neg noQuote, if_neg noDigit,
    if_pos starts]
  dsimp only
  rw [cut, Option.map_some]
  change some (Except.ok (Token.ofWord (String.ofList word), utf8Length before + word.length)) =
    some (Except.ok (Token.ofWord (String.ofList word),
      utf8Length before + utf8Length (c :: rest.take (rest.takeWhile isWordRest).length)))
  rw [taken, utf8Length_of_isAscii ascii]

theorem tokenAt?_operator (ascii : IsAscii c) (noQuote : ¬(c = '"' ∨ c = '\''))
    (noDigit : ¬c.isDigit = true) (noWord : ¬isWordStart c = true) :
    tokenAt? (before ++ c :: rest) (utf8Length before) c =
      some ((lexToken c rest).map (endOf before c rest)) := by
  have isOperator : lexToken c rest = lexOperator c rest := by
    rw [lexToken, if_neg noQuote, if_neg noDigit, if_neg noWord]
  have bytes : (byteChars (c :: rest)).drop 1 = byteChars rest := by
    have one : ∀ other ∈ [c], IsAscii other := by simpa using ascii
    exact drop_byteChars one rest
  rw [tokenAt?, if_neg noQuote, if_neg noDigit, if_neg noWord, drop_utf8Length_byteChars, bytes,
    lexOperator_byteChars, isOperator]
  cases found : lexOperator c rest with
  | error fault => rfl
  | ok operator =>
      rcases operator with ⟨token, ahead⟩
      rw [← isOperator] at found
      rcases exists_further_of_lexToken found noQuote with ⟨-, taken, starts, rfl, further⟩
      have size : utf8Length (c :: rest.take taken.length) = 1 + taken.length := by
        rw [← List.prefix_iff_eq_take.mp starts, utf8Length_of_isAscii, List.length_cons,
          Nat.add_comm]
        intro other member
        rcases List.mem_cons.mp member with rfl | member
        · exact ascii
        · exact isAscii_of_goesOn (further other member)
      change some (Except.ok (token, utf8Length before + 1 + taken.length)) =
        some (Except.ok (token, utf8Length before + utf8Length (c :: rest.take taken.length)))
      rw [size, Nat.add_assoc]

theorem tokenAt?_eq (ascii : IsAscii c) :
    tokenAt? (before ++ c :: rest) (utf8Length before) c =
      some ((lexToken c rest).map (endOf before c rest)) := by
  by_cases quote : c = '"' ∨ c = '\''
  · exact tokenAt?_quote before quote
  · by_cases digit : c.isDigit = true
    · exact tokenAt?_digit before quote digit
    · by_cases word : isWordStart c = true
      · exact tokenAt?_word before quote digit word
      · exact tokenAt?_operator before ascii quote digit word

theorem tokenAt?_of_wide (text : List Char) (position : Nat) {byte : Char}
    (wide : ¬IsAscii byte) :
    tokenAt? text position byte = some (.error (.unexpectedCharacter byte)) := by
  have noQuote : ¬(byte = '"' ∨ byte = '\'') := by
    rintro (rfl | rfl) <;> exact wide (by decide)
  have noDigit : ¬byte.isDigit = true := fun digit => wide (seeksAscii_isDigit byte digit)
  have noWord : ¬isWordStart byte = true := fun word => wide (seeksAscii_isWordStart byte word)
  rw [tokenAt?, if_neg noQuote, if_neg noDigit, if_neg noWord, lexOperator_of_wide wide]
  rfl

end

/-! ## Whole sources -/

theorem eq_of_lexOperator_error {c : Char} {rest : List Char} {fault : LexFault}
    (failed : lexOperator c rest = .error fault) : fault = .unexpectedCharacter c := by
  rw [lexOperator] at failed
  split at failed
  · cases failed
  · split at failed
    · cases failed
    · cases failed
      rfl

theorem ne_unexpectedCharacter {number : NumberText} {fault : LexFault}
    (failed : number.token = .error fault) (c : Char) : fault ≠ .unexpectedCharacter c := by
  rintro rfl
  rw [NumberText.token] at failed
  split at failed
  · dsimp only at failed
    split at failed <;> cases failed
  · cases failed

theorem message_of_lexToken {c : Char} {rest : List Char} {fault : LexFault} (ascii : IsAscii c)
    (failed : lexToken c rest = .error fault) : message fault = fault.message := by
  have ofCharacter : ∀ other, fault = .unexpectedCharacter other → other = c := by
    rintro other rfl
    rw [lexToken] at failed
    split at failed
    · split at failed <;> cases failed
    · split at failed
      · dsimp only at failed
        cases isToken : (NumberText.ofChars (c :: rest)).token with
        | error fault =>
            rw [isToken] at failed
            cases failed
            exact absurd rfl (ne_unexpectedCharacter isToken other)
        | ok token =>
            rw [isToken] at failed
            cases failed
      · split at failed
        · cases failed
        · cases eq_of_lexOperator_error failed
          rfl
  cases fault with
  | unexpectedCharacter other =>
      cases ofCharacter other rfl
      exact congrArg unexpected (ofNat_leadByte ascii).symm
  | unterminatedString => rfl
  | integerTooLarge digits => rfl

def reported (failure : Nat × LexFault) : Nat × String := (failure.1, failure.2.message)

/-- From any character on, the bytes give what the characters give. -/
theorem scanFrom?_eq (steps : Nat) (before rest : List Char) (enough : utf8Length rest < steps) :
    scanFrom? (before ++ rest) steps (utf8Length before) =
      some ((scan (utf8Length before) 0 rest).mapError reported) := by
  induction steps generalizing before rest with
  | zero => omega
  | succ steps induction =>
      have current : (byteChars (before ++ rest))[utf8Length before]? = (byteChars rest).head? := by
        rw [← List.head?_drop, drop_utf8Length_byteChars]
      rw [scanFrom?, current]
      cases rest with
      | nil => rfl
      | cons c rest =>
          rw [head?_byteChars]
          dsimp only
          by_cases ascii : IsAscii c
          · rw [ofNat_leadByte ascii]
            have one : c.utf8Size = 1 := utf8Size_of_isAscii ascii
            have positive : utf8Length rest < steps := by
              rw [utf8Length_cons] at enough
              omega
            rw [scan]
            split
            · have further := induction (before ++ [c]) rest positive
              rw [List.append_assoc, List.singleton_append, utf8Length_append] at further
              simpa [utf8Length, one] using further
            · rw [tokenAt?_eq before ascii]
              cases found : lexToken c rest with
              | error fault =>
                  change some (Except.error (utf8Length before, message fault)) = _
                  rw [message_of_lexToken ascii found]
                  rfl
              | ok operator =>
                  rcases operator with ⟨token, ahead⟩
                  have less : utf8Length (rest.drop ahead) < steps := by
                    rw [← List.take_append_drop ahead rest, utf8Length_append] at positive
                    omega
                  have further := induction (before ++ c :: rest.take ahead) (rest.drop ahead) less
                  rw [List.append_assoc, List.cons_append, List.take_append_drop,
                    utf8Length_append] at further
                  change (scanFrom? (before ++ c :: rest) steps
                    (utf8Length before + utf8Length (c :: rest.take ahead))).map _ = _
                  rw [further]
                  dsimp only
                  rw [scan_ahead found]
                  cases scan (utf8Length before + utf8Length (c :: rest.take ahead)) 0
                    (rest.drop ahead) <;> rfl
          · have wide := not_isAscii_leadByte ascii
            have visible : ∀ {other : Char}, ¬IsAscii other → ¬isAsciiBlank other = true :=
              fun {other} wideOther blank => wideOther (seeksAscii_isAsciiBlank other blank)
            rw [if_neg (visible wide), tokenAt?_of_wide _ _ wide, scan, if_neg (visible ascii),
              lexToken_of_wide ascii]
            rfl

/-- Whatever a source holds, its bytes are cut only where that can be done, and give the tokens of
its characters, or the same fault at the same byte. -/
theorem tokenize?_eq (source : String) :
    tokenize? source = some ((tokenize source).mapError reported) := by
  have enough : utf8Length source.toList < source.utf8ByteSize + 1 := by
    rw [utf8Length_eq, String.ofList_toList]
    exact Nat.lt_succ_self _
  exact scanFrom?_eq _ [] source.toList enough

end ByteLexer

end LiterateTest.Expression
