import LiterateTest.Expression.Fault
import LiterateTest.Proofs.Expression.ByteLexing
import LiterateTest.Proofs.Expression.Unread

/-! The places of tokens and faults in a source. A place is a number of bytes; none of them lies
inside a character or beyond the end, and only blanks lie outside the tokens. -/

namespace LiterateTest.Expression

open Text

/-! ## Texts of tokens -/

structure Span where
  lexeme : Lexeme
  text : List Char

namespace Span

def start (span : Span) : Nat := span.lexeme.offset

def stop (span : Span) : Nat := span.start + utf8Length span.text

def IsExact (span : Span) : Prop :=
  ∃ c taken, span.text = c :: taken ∧ isAsciiBlank c = false ∧
    lexToken c taken = .ok (span.lexeme.token, taken.length)

theorem start_lt_stop {span : Span} (exact : span.IsExact) : span.start < span.stop := by
  rcases exact with ⟨c, taken, text, -⟩
  have positive : 0 < c.utf8Size := c.utf8Size_pos
  rw [stop, text, utf8Length_cons]
  omega

end Span

/-- The tokens that a text holds from byte `offset` on, one behind the other and with nothing but
blanks between them. -/
inductive Tiles : (offset : Nat) → List Char → List Span → Prop
  | done {offset : Nat} : Tiles offset [] []
  | blank {offset : Nat} {c : Char} {rest : List Char} {spans : List Span}
      (blank : isAsciiBlank c = true) (others : Tiles (offset + c.utf8Size) rest spans) :
      Tiles offset (c :: rest) spans
  | token {span : Span} {rest : List Char} {spans : List Span} (exact : span.IsExact)
      (others : Tiles span.stop rest spans) :
      Tiles span.start (span.text ++ rest) (span :: spans)

theorem tiles_of_scan_within (steps offset : Nat) (text : List Char) (lexemes : List Lexeme)
    (enough : text.length ≤ steps) (found : scan offset 0 text = .ok lexemes) :
    ∃ spans, spans.map Span.lexeme = lexemes ∧ Tiles offset text spans := by
  induction steps generalizing offset text lexemes with
  | zero =>
      cases List.length_eq_zero_iff.mp (Nat.le_zero.mp enough)
      cases found
      exact ⟨[], rfl, .done⟩
  | succ steps induction =>
      cases text with
      | nil =>
          cases found
          exact ⟨[], rfl, .done⟩
      | cons c rest =>
          have shorter : rest.length ≤ steps := Nat.le_of_succ_le_succ enough
          rw [scan] at found
          split at found
          · next blank =>
              rcases induction _ _ _ shorter found with ⟨spans, same, tiles⟩
              exact ⟨spans, same, .blank blank tiles⟩
          · next visible =>
              split at found
              · cases found
              · next token ahead isToken =>
                  rw [scan_ahead isToken] at found
                  rcases ok_of_map found with ⟨others, isOthers, rfl⟩
                  have less : (rest.drop ahead).length ≤ steps :=
                    Nat.le_trans (List.drop_sublist _ _).length_le shorter
                  rcases induction _ _ _ less isOthers with ⟨spans, rfl, tiles⟩
                  let span : Span := ⟨⟨token, offset⟩, c :: rest.take ahead⟩
                  have exact : span.IsExact := by
                    refine ⟨c, rest.take ahead, rfl, Bool.eq_false_iff.mpr visible, ?_⟩
                    rw [lexToken_take isToken, List.length_take_of_le (ahead_le isToken)]
                  have whole : c :: rest = span.text ++ rest.drop ahead := by
                    rw [List.cons_append, List.take_append_drop]
                  refine ⟨span :: spans, rfl, ?_⟩
                  rw [whole]
                  exact .token exact tiles

theorem tiles_of_scan {offset : Nat} {text : List Char} {lexemes : List Lexeme}
    (found : scan offset 0 text = .ok lexemes) :
    ∃ spans, spans.map Span.lexeme = lexemes ∧ Tiles offset text spans :=
  tiles_of_scan_within text.length offset text lexemes (Nat.le_refl _) found

namespace Tiles

variable {offset : Nat} {text : List Char} {spans : List Span}

theorem exact (tiles : Tiles offset text spans) : ∀ span ∈ spans, span.IsExact := by
  induction tiles with
  | done =>
      intro span member
      cases member
  | blank isBlank others induction => exact induction
  | token isExact others induction =>
      intro span member
      rcases List.mem_cons.mp member with rfl | member
      · exact isExact
      · exact induction span member

theorem offset_le (tiles : Tiles offset text spans) : ∀ span ∈ spans, offset ≤ span.start := by
  induction tiles with
  | done =>
      intro span member
      cases member
  | blank isBlank others induction =>
      intro span member
      exact Nat.le_trans (Nat.le_add_right _ _) (induction span member)
  | token isExact others induction =>
      intro span member
      rcases List.mem_cons.mp member with rfl | member
      · exact Nat.le_refl _
      · exact Nat.le_trans (Nat.le_of_lt (Span.start_lt_stop isExact)) (induction span member)

theorem pairwise (tiles : Tiles offset text spans) :
    spans.Pairwise fun earlier later => earlier.stop ≤ later.start := by
  induction tiles with
  | done => exact .nil
  | blank isBlank others induction => exact induction
  | token isExact others induction => exact .cons others.offset_le induction

theorem standsAt (tiles : Tiles offset text spans) : ∀ span ∈ spans,
    ∃ before after, text = before ++ (span.text ++ after) ∧
      span.start = offset + utf8Length before := by
  induction tiles with
  | done =>
      intro span member
      cases member
  | @blank offset c rest spans isBlank others induction =>
      intro span member
      rcases induction span member with ⟨before, after, rfl, place⟩
      refine ⟨c :: before, after, rfl, ?_⟩
      rw [place, utf8Length_cons, Nat.add_assoc]
  | @token first rest spans isExact others induction =>
      intro span member
      rcases List.mem_cons.mp member with rfl | member
      · exact ⟨[], rest, rfl, rfl⟩
      · rcases induction span member with ⟨before, after, rfl, place⟩
        refine ⟨first.text ++ before, after, by rw [List.append_assoc], ?_⟩
        rw [place, Span.stop, utf8Length_append, Nat.add_assoc]

end Tiles

/-! ## Bytes between the tokens -/

def blankBytes : List UInt8 := [9, 10, 12, 13, 32]

theorem utf8EncodeChar_of_blank {c : Char} (blank : isAsciiBlank c = true) :
    ∃ byte ∈ blankBytes, String.utf8EncodeChar c = [byte] := by
  rcases separator_cases (.inl blank) with rfl | rfl | rfl | rfl | rfl | rfl
  all_goals first | decide | cases blank

theorem length_flatMap_utf8EncodeChar (text : List Char) :
    (text.flatMap String.utf8EncodeChar).length = utf8Length text := by
  simp [utf8Length, List.length_flatMap, String.length_utf8EncodeChar]

theorem Tiles.blank_or_inside {offset : Nat} {text : List Char} {spans : List Span}
    (tiles : Tiles offset text spans) (index : Nat) (byte : UInt8)
    (found : (text.flatMap String.utf8EncodeChar)[index]? = some byte) :
    byte ∈ blankBytes ∨ ∃ span ∈ spans, span.start ≤ offset + index ∧ offset + index < span.stop := by
  induction tiles generalizing index with
  | done => cases found
  | @blank offset c rest spans isBlank others induction =>
      rcases utf8EncodeChar_of_blank isBlank with ⟨own, isBlankByte, encoded⟩
      rw [List.flatMap_cons, encoded] at found
      cases index with
      | zero =>
          cases found
          exact .inl isBlankByte
      | succ index =>
          have one : c.utf8Size = 1 := by
            rw [← String.length_utf8EncodeChar, encoded, List.length_singleton]
          have further := induction index found
          rw [one, Nat.add_assoc, Nat.add_comm 1 index] at further
          exact further
  | @token first rest spans isExact others induction =>
      by_cases inside : index < utf8Length first.text
      · refine .inr ⟨first, List.mem_cons_self, Nat.le_add_right _ _, ?_⟩
        exact Nat.add_lt_add_left inside _
      · have beyond : utf8Length first.text ≤ index := Nat.le_of_not_lt inside
        rw [List.flatMap_append, List.getElem?_append_right, length_flatMap_utf8EncodeChar] at found
        · have place : first.stop + (index - utf8Length first.text) = first.start + index := by
            rw [Span.stop]
            omega
          rcases induction _ found with blank | ⟨span, member, holds⟩
          · exact .inl blank
          · rw [place] at holds
            exact .inr ⟨span, List.mem_cons_of_mem _ member, holds⟩
        · rw [length_flatMap_utf8EncodeChar]
          exact beyond

/-! ## Places of faults -/

theorem place_of_scan_error {offset ahead place : Nat} {text : List Char} {fault : LexFault}
    (failed : scan offset ahead text = .error (place, fault)) :
    ∃ before after, text = before ++ after ∧ place = offset + utf8Length before := by
  have later : ∀ {c : Char} {offset : Nat} {rest : List Char},
      (∃ before after, rest = before ++ after ∧ place = offset + c.utf8Size + utf8Length before) →
      ∃ before after, c :: rest = before ++ after ∧ place = offset + utf8Length before := by
    rintro c offset rest ⟨before, after, rfl, place⟩
    refine ⟨c :: before, after, rfl, ?_⟩
    rw [place, utf8Length_cons, Nat.add_assoc]
  induction text generalizing offset ahead with
  | nil => cases ahead <;> cases failed
  | cons c rest induction =>
      cases ahead with
      | succ ahead => exact later (induction failed)
      | zero =>
          rw [scan] at failed
          split at failed
          · exact later (induction failed)
          · split at failed
            · cases failed
              exact ⟨[], c :: rest, rfl, rfl⟩
            · next token ahead isToken =>
                cases others : scan (offset + c.utf8Size) ahead rest with
                | error other =>
                    rw [others] at failed
                    cases failed
                    exact later (induction others)
                | ok lexemes =>
                    rw [others] at failed
                    cases failed

/-- Whether a byte of a source, or its end, is where a character can start. -/
def IsBoundary (source : String) (place : Nat) : Prop :=
  place ≤ source.utf8ByteSize ∧ String.Pos.Raw.IsValid source ⟨place⟩

theorem isBoundary_append {source : String} {before after : List Char}
    (split : source.toList = before ++ after) : IsBoundary source (utf8Length before) := by
  have whole : source = String.ofList before ++ String.ofList after := by
    rw [← String.toList_inj, split]
    simp
  refine ⟨?_, ?_⟩
  · rw [whole, String.utf8ByteSize_append, ← utf8Length_eq]
    exact Nat.le_add_right _ _
  · rw [String.Pos.Raw.isValid_iff_exists_append]
    refine ⟨_, _, whole, ?_⟩
    rw [utf8Length_eq]
    rfl

theorem isBoundary_length (source : String) : IsBoundary source source.utf8ByteSize := by
  have ending := isBoundary_append (List.append_nil source.toList).symm
  rw [utf8Length_eq, String.ofList_toList] at ending
  exact ending

theorem isBoundary_of_tokenize {source : String} {lexemes : List Lexeme}
    (found : tokenize source = .ok lexemes) :
    ∀ lexeme ∈ lexemes, IsBoundary source lexeme.offset := by
  rcases tiles_of_scan found with ⟨spans, rfl, tiles⟩
  intro lexeme member
  rcases List.mem_map.mp member with ⟨span, isSpan, rfl⟩
  rcases tiles.standsAt span isSpan with ⟨before, after, split, place⟩
  change IsBoundary source span.start
  rw [place, Nat.zero_add]
  exact isBoundary_append split

theorem isBoundary_of_tokenize_error {source : String} {place : Nat} {fault : LexFault}
    (failed : tokenize source = .error (place, fault)) : IsBoundary source place := by
  rcases place_of_scan_error failed with ⟨before, after, split, rfl⟩
  rw [Nat.zero_add]
  exact isBoundary_append split

def Fault.place? : Fault → Option Nat
  | .lex place _ => some place
  | .parse place _ => some place
  | _ => none

theorem isBoundary_of_parse_error {source : String} {fault : Fault}
    (failed : parse source = .error fault) :
    ∃ place, fault.place? = some place ∧ IsBoundary source place := by
  rw [parse, lexemes] at failed
  cases found : tokenize source with
  | error failure =>
      rcases failure with ⟨place, own⟩
      rw [found] at failed
      cases failed
      exact ⟨place, rfl, isBoundary_of_tokenize_error found⟩
  | ok lexemes =>
      rw [found] at failed
      dsimp only [bind, Except.bind] at failed
      cases outcome : parseLexemes lexemes with
      | ok expr =>
          rw [outcome] at failed
          cases failed
      | error failure =>
          rw [outcome] at failed
          cases failed
          refine ⟨_, rfl, ?_⟩
          rcases offset_cases outcome source.utf8ByteSize with place | ⟨lexeme, member, place⟩
          · rw [place]
            exact isBoundary_length source
          · rw [place]
            exact isBoundary_of_tokenize found lexeme member

/-! ## Sound places -/

structure HaveSoundPlaces (source : String) (lexemes : List Lexeme) : Prop where
  increasing : (lexemes.map Lexeme.offset).Pairwise (· < ·)
  boundaries : ∀ lexeme ∈ lexemes, IsBoundary source lexeme.offset
  /-- Each token has its text in the source, these texts do not meet, and all else is blank. -/
  texts : ∃ spans : List Span, spans.map Span.lexeme = lexemes ∧
    spans.Pairwise (fun earlier later => earlier.stop ≤ later.start) ∧
    (∀ span ∈ spans, span.IsExact ∧
      slice? source.toList span.start span.stop = some span.text ∧
      tokenize (String.ofList span.text) = .ok [⟨span.lexeme.token, 0⟩]) ∧
    ∀ (index : Nat) (byte : UInt8), (utf8Bytes source)[index]? = some byte →
      byte ∈ blankBytes ∨ ∃ span ∈ spans, span.start ≤ index ∧ index < span.stop

theorem haveSoundPlaces_of_tokenize {source : String} {lexemes : List Lexeme}
    (found : tokenize source = .ok lexemes) : HaveSoundPlaces source lexemes := by
  rcases tiles_of_scan found with ⟨spans, rfl, tiles⟩
  have strict : spans.Pairwise fun earlier later => earlier.start < later.start :=
    tiles.pairwise.imp_of_mem fun member _ apart =>
      Nat.lt_of_lt_of_le (Span.start_lt_stop (tiles.exact _ member)) apart
  refine ⟨?_, isBoundary_of_tokenize found, spans, rfl, tiles.pairwise, ?_, ?_⟩
  · rw [List.map_map, List.pairwise_map]
    exact strict
  · intro span member
    have isExact := tiles.exact span member
    refine ⟨isExact, ?_, ?_⟩
    · rcases tiles.standsAt span member with ⟨before, after, split, place⟩
      rw [Span.stop, place, Nat.zero_add, split]
      exact slice?_append before span.text after
    · rcases isExact with ⟨c, taken, text, visible, own⟩
      rw [tokenize, String.toList_ofList, text]
      have alone := scan_taken own visible 0
      rw [List.take_length] at alone
      exact alone
  · intro index byte isByte
    have place := tiles.blank_or_inside index byte isByte
    rw [Nat.zero_add] at place
    exact place

/-- Reading any source by its bytes cuts it only between characters and gives the tokens of the
source or its fault. The tokens have sound places, and so has the fault, if it cannot be read. -/
theorem places_sound (source : String) :
    ByteLexer.tokenize? source = some ((tokenize source).mapError ByteLexer.reported) ∧
    (∀ lexemes, tokenize source = .ok lexemes → HaveSoundPlaces source lexemes) ∧
    ∀ fault, parse source = .error fault →
      ∃ place, fault.place? = some place ∧ IsBoundary source place :=
  ⟨ByteLexer.tokenize?_eq source, fun _ => haveSoundPlaces_of_tokenize,
    fun _ => isBoundary_of_parse_error⟩

theorem places_sound_of_wide_texts :
    (tokenize "'é' ==\n?" = .ok [⟨.string "é", 0⟩, ⟨.equal, 5⟩, ⟨.question, 8⟩] ∧
      HaveSoundPlaces "'é' ==\n?" [⟨.string "é", 0⟩, ⟨.equal, 5⟩, ⟨.question, 8⟩]) ∧
    (parse "a é" = .error (.lex 2 (.unexpectedCharacter 'é')) ∧ IsBoundary "a é" 2) := by
  have found : tokenize "'é' ==\n?" = .ok [⟨.string "é", 0⟩, ⟨.equal, 5⟩, ⟨.question, 8⟩] := by rfl
  have failed : parse "a é" = .error (.lex 2 (.unexpectedCharacter 'é')) := by rfl
  refine ⟨⟨found, (places_sound _).2.1 _ found⟩, failed, ?_⟩
  rcases (places_sound _).2.2 _ failed with ⟨place, named, boundary⟩
  cases named
  exact boundary

end LiterateTest.Expression
