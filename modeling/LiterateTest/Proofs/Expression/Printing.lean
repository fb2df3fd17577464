import LiterateTest.Proofs.Expression.Spelling
import LiterateTest.Proofs.Text.Byte

/-! Tokens as text: each token is written in one way, blanks keep one token from the next, and the
lexer gives the tokens back with the bytes at which they stand. -/

namespace LiterateTest.Expression

open Text

/-! ## The text of a token -/

def escapeInside (c : Char) : List Char :=
  if c = '"' ∨ c = '\\' then ['\\', c] else [c]

namespace Token

def spelling : Token → List Char
  | int value => Nat.toDigits 10 value
  | float value => (FloatLayout.diagnostic.render value).toList
  | string text => '"' :: (text.toList.flatMap escapeInside ++ ['"'])
  | word name => name.toList
  | trueWord => "true".toList
  | falseWord => "false".toList
  | nullWord => "null".toList
  | inWord => "in".toList
  | leftParen => ['(']
  | rightParen => [')']
  | leftBracket => ['[']
  | rightBracket => [']']
  | leftBrace => ['\x7b']
  | rightBrace => ['\x7d']
  | dot => ['.']
  | comma => [',']
  | colon => [':']
  | question => ['?']
  | bang => ['!']
  | plus => ['+']
  | minus => ['-']
  | star => ['*']
  | slash => ['/']
  | percent => ['%']
  | equal => ['=', '=']
  | notEqual => ['!', '=']
  | less => ['<']
  | lessEqual => ['<', '=']
  | greater => ['>']
  | greaterEqual => ['>', '=']
  | andAnd => ['&', '&']
  | orOr => ['|', '|']

def IsIdentifier (name : String) : Prop :=
  (∃ c rest, name.toList = c :: rest ∧ isWordStart c = true ∧ rest.all isWordRest = true) ∧
    name ∉ ["true", "false", "null", "in"]

/-- Any token but a double, for which the text of the number decides what is read. -/
def IsWritable : Token → Prop
  | float _ => False
  | word name => IsIdentifier name
  | _ => True

theorem ofWord_of_isIdentifier {name : String} (identifier : IsIdentifier name) :
    ofWord name = word name := by
  rcases identifier with ⟨-, noKeyword⟩
  simp only [List.mem_cons, List.not_mem_nil, or_false, not_or] at noKeyword
  rcases noKeyword with ⟨noTrue, noFalse, noNull, noIn⟩
  rw [ofWord, if_neg noTrue, if_neg noFalse, if_neg noNull, if_neg noIn]

end Token

theorem writes_escapeInside (c : Char) : Writes '"' (escapeInside c) [c] := by
  rw [escapeInside]
  split
  · next special =>
      rcases special with rfl | rfl
      · exact writes_escape '"'
      · exact writes_escape '\\'
  · next plain =>
      rw [not_or] at plain
      exact writes_plain plain.1 plain.2

/-! ## One token -/

theorem scan_of_single {text : List Char} {token : Token} (hasTokens : HasTokens text [token])
    (visible : ∀ c ∈ text.head?, isAsciiBlank c = false) (offset : Nat) :
    scan offset 0 text = .ok [⟨token, offset⟩] := by
  rcases hasTokens offset with ⟨lexemes, found, tokens⟩
  cases text with
  | nil =>
      cases found
      cases tokens
  | cons c rest =>
      have notBlank : ¬isAsciiBlank c = true := by simp [visible c rfl]
      rw [found]
      rw [scan, if_neg notBlank] at found
      split at found
      · cases found
      · rcases ok_of_map found with ⟨others, -, rfl⟩
        rcases List.map_eq_cons_iff.mp tokens with ⟨_, _, split, rfl, none⟩
        cases split
        cases List.map_eq_nil_iff.mp none
        rfl

theorem visible_of_isWordRest {c : Char} (word : isWordRest c = true) : isAsciiBlank c = false := by
  rw [Bool.eq_false_iff]
  intro blank
  rw [isWordRest_of_separator (.inl blank)] at word
  cases word

theorem scan_spelling_int (value : Fin (2 ^ 63)) (offset : Nat) :
    scan offset 0 (Token.int value).spelling = .ok [⟨.int value, offset⟩] := by
  have hasTokens := HasTokens.int hasTokens_nil value ends_nil
  rw [List.append_nil] at hasTokens
  apply scan_of_single hasTokens
  intro c first
  have digit := isDigit_of_mem_toDigits (List.mem_of_mem_head? first)
  exact visible_of_isWordRest (isWordRest_of_isDigit digit)

theorem scan_spelling_string (text : String) (offset : Nat) :
    scan offset 0 (Token.string text).spelling = .ok [⟨.string text, offset⟩] := by
  have writes : Writes '"' (text.toList.flatMap escapeInside) text.toList :=
    writes_flatMap fun c _ => writes_escapeInside c
  have hasTokens := HasTokens.string hasTokens_nil writes
  rw [String.ofList_toList] at hasTokens
  apply scan_of_single hasTokens
  rintro c ⟨⟩
  rfl

theorem scan_spelling_word {name : String} (identifier : Token.IsIdentifier name) (offset : Nat) :
    scan offset 0 (Token.word name).spelling = .ok [⟨.word name, offset⟩] := by
  rcases identifier.1 with ⟨c, rest, written, starts, goesOn⟩
  have hasTokens := HasTokens.word rest hasTokens_nil starts goesOn ends_nil
  rw [List.append_nil, ← written, String.ofList_toList,
    Token.ofWord_of_isIdentifier identifier] at hasTokens
  apply scan_of_single hasTokens
  rw [written]
  rintro first ⟨⟩
  exact visible_of_isWordRest (isWordRest_of_isWordStart starts)

theorem scan_spelling {token : Token} (writable : token.IsWritable) (offset : Nat) :
    scan offset 0 token.spelling = .ok [⟨token, offset⟩] := by
  cases token with
  | int value => exact scan_spelling_int value offset
  | float value => cases writable
  | string text => exact scan_spelling_string text offset
  | word name => exact scan_spelling_word writable offset
  | _ => rfl

/-! ## Several tokens -/

structure WrittenToken where
  token : Token
  gap : List Char

namespace WrittenToken

def text (written : WrittenToken) : List Char := written.token.spelling ++ written.gap

/-- Blanks may be missing only at the end of the text. -/
inductive AreApart : List WrittenToken → Prop
  | nil : AreApart []
  | last {written : WrittenToken} (writable : written.token.IsWritable)
      (blank : written.gap.all isAsciiBlank = true) : AreApart [written]
  | cons {written : WrittenToken} {others : List WrittenToken}
      (writable : written.token.IsWritable) (blank : written.gap.all isAsciiBlank = true)
      (nonempty : written.gap ≠ []) (apart : AreApart others) : AreApart (written :: others)

def lexemesFrom : (offset : Nat) → List WrittenToken → List Lexeme
  | _, [] => []
  | offset, written :: others =>
      ⟨written.token, offset⟩ :: lexemesFrom (offset + utf8Length written.text) others

end WrittenToken

theorem scan_blanks {gap : List Char} (blank : gap.all isAsciiBlank = true) (offset : Nat)
    (rest : List Char) :
    scan offset 0 (gap ++ rest) = scan (offset + utf8Length gap) 0 rest := by
  induction gap generalizing offset with
  | nil => rfl
  | cons c gap induction =>
      rw [List.all_cons, Bool.and_eq_true] at blank
      rw [List.cons_append, scan, if_pos blank.1, induction blank.2, utf8Length_cons, Nat.add_assoc]

theorem separates_gap {gap rest : List Char} (blank : gap.all isAsciiBlank = true)
    (nonempty : gap ≠ []) : Separates (gap ++ rest) := by
  cases gap with
  | nil => exact absurd rfl nonempty
  | cons c gap =>
      rw [List.all_cons, Bool.and_eq_true] at blank
      exact separates_blank blank.1

theorem scan_text {written : WrittenToken} {rest : List Char}
    (writable : written.token.IsWritable) (blank : written.gap.all isAsciiBlank = true)
    (separates : Separates (written.gap ++ rest)) (offset : Nat) :
    scan offset 0 (written.text ++ rest) =
      (scan (offset + utf8Length written.text) 0 rest).map (⟨written.token, offset⟩ :: ·) := by
  rw [WrittenToken.text, List.append_assoc,
    scan_append (scan_spelling writable offset) (Nat.zero_le _) separates,
    scan_blanks blank, utf8Length_append, Nat.add_assoc]
  rfl

theorem scan_written {written : List WrittenToken} (apart : WrittenToken.AreApart written)
    (offset : Nat) :
    scan offset 0 (written.flatMap WrittenToken.text) =
      .ok (WrittenToken.lexemesFrom offset written) := by
  induction apart generalizing offset with
  | nil => rfl
  | @last written writable blank =>
      have separates : Separates (written.gap ++ []) := by
        by_cases empty : written.gap = []
        · rw [empty]
          rintro c ⟨⟩
        · exact separates_gap blank empty
      rw [List.flatMap_cons, List.flatMap_nil, scan_text writable blank separates]
      rfl
  | cons writable blank nonempty apart induction =>
      rw [List.flatMap_cons, scan_text writable blank (separates_gap blank nonempty), induction]
      rfl

/-- Tokens that are written with blanks between them, of whatever kinds and however many, are read
as what they are, each at the byte at which its text starts. -/
theorem tokenize_written {lead : List Char} {written : List WrittenToken}
    (blank : lead.all isAsciiBlank = true) (apart : WrittenToken.AreApart written) :
    tokenize (String.ofList (lead ++ written.flatMap WrittenToken.text)) =
      .ok (WrittenToken.lexemesFrom (utf8Length lead) written) := by
  rw [tokenize, String.toList_ofList, scan_blanks blank, scan_written apart, Nat.zero_add]

theorem tokenize_written_of_escapes :
    String.ofList (['\t'] ++ [⟨.bang, ['\n']⟩, ⟨.equal, [' ', '\x0c']⟩,
        ⟨.string "é\\\"n", [' ']⟩, ⟨.int 9223372036854775807, []⟩].flatMap WrittenToken.text) =
      "\t!\n== \x0c\"é\\\\\\\"n\" 9223372036854775807" ∧
    tokenize "\t!\n== \x0c\"é\\\\\\\"n\" 9223372036854775807" =
      .ok [⟨.bang, 1⟩, ⟨.equal, 3⟩, ⟨.string "é\\\"n", 7⟩, ⟨.int 9223372036854775807, 17⟩] := by
  let written : List WrittenToken := [⟨.bang, ['\n']⟩, ⟨.equal, [' ', '\x0c']⟩,
    ⟨.string "é\\\"n", [' ']⟩, ⟨.int 9223372036854775807, []⟩]
  have same : String.ofList (['\t'] ++ written.flatMap WrittenToken.text) =
      "\t!\n== \x0c\"é\\\\\\\"n\" 9223372036854775807" := by decide
  have apart : WrittenToken.AreApart written :=
    .cons trivial rfl (by decide) <| .cons trivial rfl (by decide) <|
      .cons trivial rfl (by decide) <| .last trivial rfl
  refine ⟨same, ?_⟩
  have found := @tokenize_written ['\t'] written rfl apart
  rw [same] at found
  exact found

end LiterateTest.Expression
