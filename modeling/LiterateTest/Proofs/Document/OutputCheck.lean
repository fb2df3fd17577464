import LiterateTest.Proofs.Document.Validation
import LiterateTest.Proofs.Expression.TokenEnd

/-! The texts and patterns of validations. Whatever an author writes, what stands for it is one
check of the output with one string as its argument, or has no tokens at all. -/

namespace LiterateTest.Validation

open Expression

/-! ## Escaped texts -/

/-- A backslash stands before each double quote, where `previous` stands before the text. -/
def Escaped : (previous : Option Char) → List Char → Prop
  | _, [] => True
  | previous, c :: rest => (c = '"' → previous = some '\\') ∧ Escaped (some c) rest

theorem escaped_escapeQuotes (previous : Option Char) (text : List Char) :
    Escaped previous (escapeQuotes previous text) := by
  induction text generalizing previous with
  | nil => trivial
  | cons c rest induction =>
      rw [escapeQuotes]
      split
      · exact ⟨fun quote => absurd quote (by decide), fun _ => rfl, induction _⟩
      · next kept =>
          refine ⟨fun quote => ?_, induction _⟩
          exact Decidable.byContradiction fun unescaped => kept ⟨quote, unescaped⟩

/-! ## The rest of a check -/

def closing : List Char := ['"', ')']

/-- The characters ahead belong to the text, and the last of them is no backslash. If there are
none, it is `previous` that counts. -/
structure Passed (previous : Option Char) (ahead : Nat) (text : List Char) : Prop where
  short : ahead ≤ text.length
  last : (text.take ahead).getLast?.or previous ≠ some '\\'

theorem Passed.tail {previous : Option Char} {ahead : Nat} {c : Char} {rest : List Char}
    (passed : Passed previous (ahead + 1) (c :: rest)) : Passed (some c) ahead rest := by
  refine ⟨Nat.le_of_succ_le_succ passed.short, ?_⟩
  have last := passed.last
  rw [List.take_succ_cons, List.getLast?_cons] at last
  cases taken : (rest.take ahead).getLast? <;> simpa [taken] using last

theorem prefix_of_plain {taken rest : List Char} (starts : taken <+: rest ++ closing)
    (plain : ∀ c ∈ taken, isPlain c = true) : taken <+: rest := by
  induction taken generalizing rest with
  | nil => exact List.nil_prefix
  | cons c taken induction =>
      cases rest with
      | nil =>
          rw [List.nil_append, closing, List.cons_prefix_cons] at starts
          have isPlain := plain c List.mem_cons_self
          rw [starts.1] at isPlain
          cases isPlain
      | cons d rest =>
          rw [List.cons_append, List.cons_prefix_cons] at starts
          rw [starts.1, List.prefix_cons_inj]
          exact induction starts.2 fun other member => plain other (List.mem_cons_of_mem c member)

theorem Passed.of_plain {c : Char} {taken rest : List Char} (starts : taken <+: rest)
    (first : isPlain c = true) (plain : ∀ other ∈ taken, isPlain other = true) :
    Passed (some c) taken.length rest := by
  refine ⟨starts.length_le, ?_⟩
  rw [← List.prefix_iff_eq_take.mp starts]
  intro last
  cases isLast : taken.getLast? with
  | none =>
      rw [isLast] at last
      cases last
      cases first
  | some other =>
      rw [isLast] at last
      cases last
      cases plain _ (List.mem_of_getLast? isLast)

theorem quote_cases {quote : Char} {before after rest : List Char}
    (same : rest ++ closing = before ++ quote :: after) (isQuote : quote ≠ ')') :
    (∃ tail, rest = before ++ quote :: tail) ∨ before = rest ∧ quote = '"' ∧ after = [')'] := by
  induction rest generalizing before with
  | nil =>
      right
      cases before with
      | nil =>
          cases same
          exact ⟨rfl, rfl, rfl⟩
      | cons c before =>
          cases before with
          | nil =>
              cases same
              exact absurd rfl isQuote
          | cons d before => simp [closing] at same
  | cons c rest induction =>
      cases before with
      | nil =>
          cases same
          exact .inl ⟨rest, rfl⟩
      | cons d before =>
          rw [List.cons_append, List.cons_append, List.cons.injEq] at same
          rcases same with ⟨rfl, same⟩
          rcases induction same with ⟨tail, rfl⟩ | ⟨rfl, atEnd⟩
          · exact .inl ⟨tail, rfl⟩
          · exact .inr ⟨rfl, atEnd⟩

theorem Passed.of_quote {previous : Option Char} {quote : Char} {before tail : List Char}
    (isQuote : quote ≠ '\\') :
    Passed previous (before.length + 1) (before ++ quote :: tail) := by
  refine ⟨by simp, ?_⟩
  have taken : (before ++ quote :: tail).take (before.length + 1) = before ++ [quote] := by
    rw [List.append_cons]
    exact List.take_left' (by simp)
  rw [taken, List.getLast?_concat]
  simpa using isQuote

theorem passed_of_lexToken {c : Char} {rest : List Char} {token : Token} {ahead : Nat}
    (found : lexToken c (rest ++ closing) = .ok (token, ahead)) (noQuote : c ≠ '"') :
    Passed (some c) ahead rest := by
  by_cases single : c = '\''
  · subst single
    rw [lexToken, if_pos (.inr rfl)] at found
    split at found
    · next inside taken isString =>
        cases found
        rcases quote_of_lexString? isString with ⟨before, after, split, rfl⟩
        rcases quote_cases split (by decide) with ⟨tail, rfl⟩ | ⟨-, double, -⟩
        · exact .of_quote (by decide)
        · cases double
    · cases found
  · rcases exists_spelling_of_lexToken found (not_or.mpr ⟨noQuote, single⟩) with
      ⟨first, taken, starts, rfl, plain⟩
    exact .of_plain (prefix_of_plain starts plain) first plain

/-- By induction on the text, as the lexer goes over it. Outside of strings it never stands behind
a backslash, so that no double quote of the text opens a string, and the last one opens a string
without an end. -/
theorem scan_rest {offset ahead : Nat} {previous : Option Char} {text : List Char}
    (passed : Passed previous ahead text) (escaped : Escaped previous text) :
    ∃ fault, scan offset ahead (text ++ closing) = .error fault := by
  induction text generalizing offset ahead previous with
  | nil =>
      cases Nat.le_zero.mp passed.short
      exact ⟨_, rfl⟩
  | cons c rest induction =>
      cases ahead with
      | succ ahead =>
          rw [List.cons_append, scan]
          exact induction passed.tail escaped.2
      | zero =>
          have noQuote : c ≠ '"' := fun quote => passed.last (escaped.1 quote)
          rw [List.cons_append, scan]
          split
          · next blank =>
              refine induction ⟨Nat.zero_le _, ?_⟩ escaped.2
              rintro ⟨rfl⟩
              cases blank
          · split
            · exact ⟨_, rfl⟩
            · next token ahead isToken =>
                rcases induction (passed_of_lexToken isToken noQuote) escaped.2 with
                  ⟨fault, failed⟩
                exact ⟨fault, by rw [failed]; rfl⟩

/-! ## Whole checks -/

theorem lexString?_escapeQuotes {previous : Option Char} {text : List Char} (rest : List Char)
    (plain : '\\' ∉ text) (notEscaped : previous ≠ some '\\') :
    lexString? '"' (escapeQuotes previous text ++ '"' :: rest) =
      some (text, (escapeQuotes previous text).length + 1) := by
  induction text generalizing previous with
  | nil => rfl
  | cons c text induction =>
      rw [List.mem_cons, not_or] at plain
      have notLast : some c ≠ some '\\' := by simpa using Ne.symm plain.1
      have read := induction plain.2 notLast
      rw [escapeQuotes]
      split
      · next quote =>
          rw [quote.1] at read ⊢
          rw [List.cons_append, List.cons_append, lexString?, read]
          rfl
      · next noQuote =>
          have other : c ≠ '"' := fun quote => noQuote ⟨quote, notEscaped⟩
          rw [List.cons_append, lexString?_cons (Ne.symm plain.1), if_neg other, read]
          rfl

theorem scan_passed (offset ahead : Nat) (text more : List Char) :
    ∃ moved, scan offset (text.length + ahead) (text ++ more) = scan moved ahead more := by
  induction text generalizing offset with
  | nil => exact ⟨offset, by simp⟩
  | cons c rest induction =>
      rcases induction (offset + c.utf8Size) with ⟨moved, same⟩
      refine ⟨moved, ?_⟩
      rw [List.length_cons, Nat.add_right_comm, List.cons_append, scan, same]

theorem scan_quote (offset : Nat) (text : List Char) :
    scan offset 0 ('"' :: text) =
      match lexString? '"' text with
      | some (inside, taken) =>
          (scan (offset + '"'.utf8Size) taken text).map
            (⟨.string (String.ofList inside), offset⟩ :: ·)
      | none => .error (offset, .unterminatedString) := by
  rw [scan, if_neg (by decide), lexToken, if_pos (.inl rfl)]
  cases lexString? '"' text <;> rfl

theorem scan_string (offset : Nat) {text inside : List Char}
    (isString : lexString? '"' (text ++ closing) = some (inside, text.length + 1)) :
    ∃ close, scan offset 0 ('"' :: (text ++ closing)) =
      .ok [⟨.string (String.ofList inside), offset⟩, ⟨.rightParen, close⟩] := by
  rcases scan_passed (offset + '"'.utf8Size) 1 text closing with ⟨moved, same⟩
  refine ⟨moved + '"'.utf8Size, ?_⟩
  rw [scan_quote, isString]
  dsimp only
  rw [same]
  rfl

theorem scan_argument (offset : Nat) {text : List Char} (escaped : Escaped none text) :
    (∃ fault, scan offset 0 ('"' :: (text ++ closing)) = .error fault) ∨
      ∃ argument close, scan offset 0 ('"' :: (text ++ closing)) =
        .ok [⟨.string argument, offset⟩, ⟨.rightParen, close⟩] := by
  cases isString : lexString? '"' (text ++ closing) with
  | none =>
      left
      rw [scan_quote, isString]
      exact ⟨_, rfl⟩
  | some string =>
      rcases string with ⟨inside, taken⟩
      rcases quote_of_lexString? isString with ⟨before, after, split, rfl⟩
      rcases quote_cases split (by decide) with ⟨tail, rfl⟩ | ⟨rfl, -, -⟩
      · left
        have passed : Passed none (before.length + 1) (before ++ '"' :: tail) :=
          .of_quote (by decide)
        rw [scan_quote, isString]
        rcases scan_rest passed escaped with ⟨fault, failed⟩
        exact ⟨fault, by dsimp only; rw [failed]; rfl⟩
      · exact .inr ⟨_, scan_string offset isString⟩

/-! ## Items -/

inductive OutputKey where
  | contains
  | regex

namespace OutputKey

def name : OutputKey → String
  | contains => "contains"
  | regex => "regex"

def method : OutputKey → String
  | contains => "contains"
  | regex => "matches"

def item (key : OutputKey) (text : String) : String :=
  key.name ++ ": " ++ text

def check (key : OutputKey) (argument : String) : Expr :=
  .method (.reference "stdout") key.method [.literal (.string argument)]

def checkTokens (key : OutputKey) (argument : String) : List Token :=
  [.word "stdout", .dot, .word key.method, .leftParen, .string argument, .rightParen]

def opening (key : OutputKey) : List Lexeme :=
  [⟨.word "stdout", 0⟩, ⟨.dot, 6⟩, ⟨.word key.method, 7⟩,
    ⟨.leftParen, 7 + key.method.utf8ByteSize⟩]

def stringOffset (key : OutputKey) : Nat :=
  8 + key.method.utf8ByteSize

theorem scan_opening (key : OutputKey) (rest : List Char) :
    scan 0 0 (("stdout." ++ key.method ++ "(\"").toList ++ rest) =
      (scan key.stringOffset 0 ('"' :: rest)).map (key.opening ++ ·) := by
  have joined (offset : Nat) (first second third fourth : Lexeme) :
      ((((scan offset 0 ('"' :: rest)).map (fourth :: ·)).map (third :: ·)).map (second :: ·)).map
        (first :: ·) = (scan offset 0 ('"' :: rest)).map ([first, second, third, fourth] ++ ·) := by
    cases scan offset 0 ('"' :: rest) <;> rfl
  cases key with
  | contains => exact joined 16 _ _ _ _
  | regex => exact joined 15 _ _ _ _

theorem parseLexemes_check (key : OutputKey) (argument : String) (close : Nat) :
    parseLexemes (key.opening ++ [⟨.string argument, key.stringOffset⟩, ⟨.rightParen, close⟩]) =
      .ok (key.check argument) := by
  cases key <;> rfl

end OutputKey

theorem trimChars_keyed (first : Char) (key text : List Char)
    (visible : Text.isBlank first = false) :
    Text.trimChars (first :: key ++ ':' :: text) =
      first :: key ++ ':' :: Text.dropBlankEnd text := by
  have colon : Text.isBlank ':' = false := by decide
  rw [Text.trimChars, List.cons_append, List.dropWhile_cons, visible]
  simp [Text.dropBlankEnd, List.dropWhile_append, colon]

theorem compileChars_item (key : OutputKey) (text : List Char) :
    ∃ argument, compileChars ((key.name ++ ": ").toList ++ text) =
      outputCheck key.method argument := by
  refine ⟨Text.trimChars (Text.dropBlankEnd (' ' :: text)), compileChars_of_check ?_⟩
  cases key with
  | contains =>
      have trimmed := trimChars_keyed 'c' "ontains".toList (' ' :: text) (by decide)
      change checkOf? (Text.trimChars ('c' :: "ontains".toList ++ ':' :: ' ' :: text)) = _
      rw [trimmed]
      rfl
  | regex =>
      have trimmed := trimChars_keyed 'r' "egex".toList (' ' :: text) (by decide)
      change checkOf? (Text.trimChars ('r' :: "egex".toList ++ ':' :: ' ' :: text)) = _
      rw [trimmed]
      rfl

theorem scan_outputCheck (key : OutputKey) (argument : List Char) :
    scan 0 0 (outputCheck key.method argument) =
      (scan key.stringOffset 0
        ('"' :: (escapeQuotes none (unquote argument) ++ closing))).map (key.opening ++ ·) := by
  rw [← key.scan_opening, ← List.append_assoc]
  rfl

theorem parse_outputCheck {key : OutputKey} {written : List Char} {argument : String} {close : Nat}
    (lexed : scan key.stringOffset 0 ('"' :: (escapeQuotes none (unquote written) ++ closing)) =
      .ok [⟨.string argument, key.stringOffset⟩, ⟨.rightParen, close⟩]) :
    parse (String.ofList (outputCheck key.method written)) = .ok (key.check argument) := by
  rw [parse_ofList, scan_outputCheck, lexed]
  dsimp only [Except.map]
  rw [key.parseLexemes_check]

theorem hasTokens_outputCheck (key : OutputKey) {written : List Char}
    (plain : '\\' ∉ unquote written) :
    HasTokens (outputCheck key.method written)
      (key.checkTokens (String.ofList (unquote written))) := by
  have isString : lexString? '"' (escapeQuotes none (unquote written) ++ closing) =
      some (unquote written, (escapeQuotes none (unquote written)).length + 1) :=
    lexString?_escapeQuotes [')'] plain (by decide)
  rcases scan_string key.stringOffset isString with ⟨close, lexed⟩
  have scanned := scan_outputCheck key written
  rw [lexed] at scanned
  exact hasTokens_of_scan scanned

/-- Whatever text or pattern an author writes, what stands for it is one check of the output with
one string as its argument, or has no tokens. -/
theorem tokenize_compileItem (key : OutputKey) (text : String) :
    (∃ offset fault,
      tokenize (compileItem (key.item text)) = .error (offset, fault) ∧
      parse (compileItem (key.item text)) = .error (.lex offset fault)) ∨
    ∃ argument lexemes,
      tokenize (compileItem (key.item text)) = .ok lexemes ∧
      lexemes.map Lexeme.token = key.checkTokens argument ∧
      parse (compileItem (key.item text)) = .ok (key.check argument) := by
  rcases compileChars_item key text.toList with ⟨written, compiled⟩
  have source : compileItem (key.item text) = String.ofList (outputCheck key.method written) := by
    rw [compileItem, OutputKey.item, String.toList_append, compiled]
  have escaped := escaped_escapeQuotes none (unquote written)
  rw [source, tokenize, String.toList_ofList, scan_outputCheck]
  rcases scan_argument key.stringOffset escaped with
    ⟨⟨offset, fault⟩, failed⟩ | ⟨argument, close, lexed⟩
  · left
    refine ⟨offset, fault, ?_, ?_⟩
    · rw [failed]
      rfl
    · rw [parse_ofList, scan_outputCheck, failed]
      rfl
  · right
    rw [lexed]
    exact ⟨argument, _, rfl, rfl, parse_outputCheck lexed⟩

-- An even number of backslashes ends the string, but then the quote of the check opens another.
example : (tokenize (compileItem "contains: a\\\\\" + b")).isOk = false := by
  decide +kernel

end LiterateTest.Validation
