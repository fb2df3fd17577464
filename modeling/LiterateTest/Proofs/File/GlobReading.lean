import LiterateTest.File.Glob
import LiterateTest.Proofs.Each
import LiterateTest.Proofs.File.Path

/-! Reading a pattern. It can be read as a whole if it can be read between the slashes, and a text
without wildcards stands for itself. -/

namespace LiterateTest.Glob

open Text

/-! ## Single tokens -/

/-- The token that a character begins, and how many characters behind it are read with it. -/
def tokenAt (position : Nat) (before : Option Char) (c : Char) (rest : List Char) :
    Except GlobFault (GlobToken × Nat) :=
  match c with
  | '?' => .ok (.anyChar, 0)
  | '*' =>
      match (rest.takeWhile (· == '*')).length with
      | 0 => .ok (.anyText, 0)
      | 1 => (checkRecursive position before (rest.drop 1)).map fun _ => (.anyDirectories, 2)
      | _ => .error (.wildcards (position + 2))
  | '[' =>
      match readSet? rest with
      | none => .error (.invalidRange position)
      | some (found, count) => .ok (found, count)
  | c => .ok (.char c, 0)

def wildcards : List Char := ['?', '*', '[']

theorem mem_wildcards {c : Char} : c ∈ wildcards ↔ c = '?' ∨ c = '*' ∨ c = '[' := by
  simp [wildcards]

theorem tokenAt_of_plain {c : Char} (plain : c ∉ wildcards) (position : Nat)
    (before : Option Char) (rest : List Char) :
    tokenAt position before c rest = .ok (.char c, 0) := by
  rw [mem_wildcards, not_or, not_or] at plain
  rw [tokenAt] <;> simp [plain]

theorem readFrom_nil {skip position : Nat} {before : Option Char} :
    readFrom skip position before [] = .ok [] := by
  cases skip <;> rfl

theorem readFrom_cons (position : Nat) (before : Option Char) (c : Char) (rest : List Char) :
    readFrom 0 position before (c :: rest) =
      (tokenAt position before c rest).bind fun found =>
        (readFrom found.2 (position + 1) (some c) rest).map (found.1 :: ·) := by
  by_cases wild : c ∈ wildcards
  · rcases mem_wildcards.mp wild with rfl | rfl | rfl
    · rfl
    · rw [readFrom, tokenAt]
      cases stars : (rest.takeWhile (· == '*')).length with
      | zero => rfl
      | succ count =>
          cases count with
          | zero => cases checkRecursive position before (rest.drop 1) <;> rfl
          | succ count => rfl
    · rw [readFrom, tokenAt]
      cases readSet? rest <;> rfl
  · have plain := wild
    rw [mem_wildcards, not_or, not_or] at plain
    rw [tokenAt_of_plain wild, readFrom]
    · rfl
    · exact plain.1
    · exact plain.2.1
    · exact plain.2.2

theorem readFrom_cons_eq_ok_iff {position : Nat} {before : Option Char} {c : Char}
    {rest : List Char} {tokens : List GlobToken} :
    readFrom 0 position before (c :: rest) = .ok tokens ↔
      ∃ token skip others, tokenAt position before c rest = .ok (token, skip) ∧
        readFrom skip (position + 1) (some c) rest = .ok others ∧ tokens = token :: others := by
  rw [readFrom_cons]
  constructor
  · intro isRead
    cases isToken : tokenAt position before c rest with
    | error fault =>
        rw [isToken] at isRead
        cases isRead
    | ok found =>
        rw [isToken, Except.bind] at isRead
        cases isRest : readFrom found.2 (position + 1) (some c) rest with
        | error fault =>
            rw [isRest] at isRead
            cases isRead
        | ok others =>
            rw [isRest] at isRead
            exact ⟨found.1, found.2, others, rfl, isRest, (Except.ok.inj isRead).symm⟩
  · rintro ⟨token, skip, others, isToken, isRest, rfl⟩
    rw [isToken, Except.bind, isRest]
    rfl

/-! ## More text at the end -/

def Blocks (before : Option Char) : Prop := before.isSome = true ∧ before ≠ some '/'

def EndsName (tail : List Char) : Prop := ∀ c ∈ tail.head?, c = '/'

theorem checkRecursive_eq_ok_iff {position : Nat} {before : Option Char} {after : List Char} :
    checkRecursive position before after = .ok () ↔ ¬Blocks before ∧ EndsName after := by
  have blocks : (before.isSome && before != some '/') = true ↔ Blocks before := by
    rw [Bool.and_eq_true, bne_iff_ne, Blocks]
  have ends : (after.isEmpty || after.head? == some '/') = true ↔ EndsName after := by
    cases after <;> simp [EndsName]
  rw [checkRecursive]
  by_cases blocked : Blocks before
  · rw [if_pos (blocks.mpr blocked)]
    simp [blocked]
  · rw [if_neg fun both => blocked (blocks.mp both)]
    by_cases ended : EndsName after
    · rw [if_pos (ends.mpr ended)]
      simp [blocked, ended]
    · rw [if_neg fun either => ended (ends.mp either)]
      simp [ended]

theorem splitAtFirst?_append {mark : Char} {text before after : List Char}
    (found : splitAtFirst? mark text = some (before, after)) (tail : List Char) :
    splitAtFirst? mark (text ++ tail) = some (before, after ++ tail) ∧
      before.length < text.length := by
  induction text generalizing before with
  | nil => cases found
  | cons c rest induction =>
      rw [splitAtFirst?] at found
      rw [List.cons_append, splitAtFirst?]
      split at found
      · next same =>
          cases found
          rw [if_pos same]
          exact ⟨rfl, Nat.succ_pos _⟩
      · next other =>
          rcases Option.map_eq_some_iff.mp found with ⟨⟨front, others⟩, inner, same⟩
          cases same
          rw [if_neg other, (induction inner).1]
          exact ⟨rfl, Nat.succ_lt_succ (induction inner).2⟩

theorem upToBracket?_append {text inside : List Char} (found : upToBracket? text = some inside)
    (tail : List Char) :
    upToBracket? (text ++ tail) = some inside ∧ inside.length < text.length := by
  rcases Option.map_eq_some_iff.mp found with ⟨⟨before, after⟩, split, rfl⟩
  rcases splitAtFirst?_append split tail with ⟨splitToo, shorter⟩
  exact ⟨by rw [upToBracket?, splitToo]; rfl, shorter⟩

theorem readSet?_append {text : List Char} {token : GlobToken} {count : Nat}
    (found : readSet? text = some (token, count)) (tail : List Char) :
    readSet? (text ++ tail) = some (token, count) ∧ count ≤ text.length := by
  rw [readSet?.eq_def] at found
  split at found
  · next first rest =>
      rcases Option.map_eq_some_iff.mp found with ⟨others, inside, same⟩
      cases same
      rcases upToBracket?_append inside tail with ⟨insideToo, shorter⟩
      refine ⟨by rw [List.cons_append, List.cons_append, readSet?, insideToo]; rfl, ?_⟩
      rw [List.length_cons, List.length_cons]
      omega
  · cases found
  · next first rest notMore notAlone =>
      rcases Option.map_eq_some_iff.mp found with ⟨others, inside, same⟩
      cases same
      rcases upToBracket?_append inside tail with ⟨insideToo, shorter⟩
      have noMark : first ≠ '!' := by
        cases rest with
        | nil => exact fun mark => notAlone mark rfl
        | cons second rest => exact fun mark => notMore second rest mark rfl
      refine ⟨?_, by rw [List.length_cons]; omega⟩
      rw [List.cons_append, readSet?, insideToo]
      · rfl
      · exact fun _ _ mark _ => noMark mark
      · exact fun mark _ => noMark mark
  · cases found

theorem takeWhile_star_append {tail : List Char} (ends : EndsName tail) (text : List Char) :
    (text ++ tail).takeWhile (· == '*') = text.takeWhile (· == '*') := by
  have noStar : tail.takeWhile (· == '*') = [] := by
    cases tail with
    | nil => rfl
    | cons c rest =>
        rw [ends c rfl]
        rfl
  rw [List.takeWhile_append, noStar, List.append_nil]
  split
  · next all => exact ((List.takeWhile_sublist _).eq_of_length all).symm
  · rfl

section

variable {position : Nat} {before others : Option Char} {text tail : List Char}
  (unblocked : Blocks others → Blocks before) (ends : EndsName tail) (elsewhere : Nat)

include unblocked ends

theorem checkRecursive_append (nonempty : 1 ≤ text.length)
    (isFree : checkRecursive position before (text.drop 1) = .ok ()) :
    checkRecursive elsewhere others ((text ++ tail).drop 1) = .ok () := by
  rcases checkRecursive_eq_ok_iff.mp isFree with ⟨free, endsToo⟩
  refine checkRecursive_eq_ok_iff.mpr ⟨fun blocked => free (unblocked blocked), ?_⟩
  rw [List.drop_append_of_le_length nonempty]
  cases more : text.drop 1 with
  | nil => exact ends
  | cons c rest =>
      rw [more] at endsToo
      exact endsToo

theorem tokenAt_star_append {found : GlobToken × Nat}
    (isToken : tokenAt position before '*' text = .ok found) :
    tokenAt elsewhere others '*' (text ++ tail) = .ok found ∧ found.2 ≤ text.length + 1 := by
  rw [tokenAt] at isToken ⊢
  rw [takeWhile_star_append ends]
  split at isToken
  · cases isToken
    exact ⟨rfl, Nat.zero_le _⟩
  · next stars =>
      have nonempty : 1 ≤ text.length := by
        rw [← stars]
        exact (List.takeWhile_sublist _).length_le
      cases isFree : checkRecursive position before (text.drop 1) with
      | error fault =>
          rw [isFree] at isToken
          cases isToken
      | ok _ =>
          rw [isFree] at isToken
          cases isToken
          rw [checkRecursive_append unblocked ends elsewhere nonempty isFree]
          exact ⟨rfl, Nat.succ_le_succ nonempty⟩
  · cases isToken

theorem tokenAt_append {c : Char} {found : GlobToken × Nat}
    (isToken : tokenAt position before c text = .ok found) :
    tokenAt elsewhere others c (text ++ tail) = .ok found ∧ found.2 ≤ text.length + 1 := by
  by_cases wild : c ∈ wildcards
  · rcases mem_wildcards.mp wild with rfl | rfl | rfl
    · cases isToken
      exact ⟨rfl, Nat.zero_le _⟩
    · exact tokenAt_star_append unblocked ends elsewhere isToken
    · rw [tokenAt] at isToken ⊢
      cases isSet : readSet? text with
      | none =>
          rw [isSet] at isToken
          cases isToken
      | some found =>
          rw [isSet] at isToken
          cases isToken
          rcases readSet?_append isSet tail with ⟨isSetToo, bounded⟩
          rw [isSetToo]
          exact ⟨rfl, Nat.le_succ_of_le bounded⟩
  · rw [tokenAt_of_plain wild] at isToken ⊢
    cases isToken
    exact ⟨rfl, Nat.zero_le _⟩

end

/-! ## Names put together -/

theorem exists_readFrom_append {skip position : Nat} {before : Option Char} {text : List Char}
    {tokens : List GlobToken} (isRead : readFrom skip position before text = .ok tokens)
    (skipped : skip ≤ text.length + 1) {others : Option Char}
    (unblocked : Blocks others → Blocks before) {tail : List Char} (ends : EndsName tail)
    (further : ∀ skip ≤ 1, ∀ position before, ∃ tokens,
      readFrom skip position before tail = .ok tokens) (elsewhere : Nat) :
    ∃ whole, readFrom skip elsewhere others (text ++ tail) = .ok whole := by
  induction text generalizing skip position before tokens others elsewhere with
  | nil => exact further skip skipped _ _
  | cons c rest induction =>
      cases skip with
      | succ skip =>
          rw [readFrom] at isRead
          rw [List.cons_append, readFrom]
          exact induction isRead (Nat.le_of_succ_le_succ skipped) id _
      | zero =>
          rcases readFrom_cons_eq_ok_iff.mp isRead with ⟨token, next, more, isToken, isRest, -⟩
          rcases tokenAt_append unblocked ends elsewhere isToken with ⟨isTokenToo, bounded⟩
          rcases induction isRest bounded id (elsewhere + 1) with ⟨whole, isWhole⟩
          exact ⟨token :: whole, readFrom_cons_eq_ok_iff.mpr
            ⟨token, next, whole, isTokenToo, isWhole, rfl⟩⟩

/-- A pattern can be read as a whole if it can be read between the slashes. -/
theorem exists_read_joinWith {pieces : List String}
    (each : ∀ piece ∈ pieces, ∃ tokens, read piece = .ok tokens) :
    ∃ tokens, read (joinWith "/" pieces) = .ok tokens := by
  -- Every piece but the first is read behind a slash, and none of them at the start.
  have anywhere : ∀ position before, ¬Blocks before → ∃ tokens,
      readFrom 0 position before (joinWith "/" pieces).toList = .ok tokens := by
    induction pieces with
    | nil => exact fun _ _ _ => ⟨[], rfl⟩
    | cons piece rest induction =>
        intro position before free
        have inner := induction fun other member => each other (List.mem_cons_of_mem _ member)
        rcases each piece List.mem_cons_self with ⟨tokens, isRead⟩
        have unblocked : Blocks before → Blocks none := fun blocked => absurd blocked free
        cases rest with
        | nil =>
            have ends : EndsName [] := fun _ member => absurd member (Option.not_mem_none _)
            have alone := exists_readFrom_append isRead (Nat.zero_le _) unblocked ends
              (fun _ _ _ _ => ⟨[], readFrom_nil⟩) position
            rwa [List.append_nil] at alone
        | cons second rest =>
            have behind : ∀ position, ∃ tokens, readFrom 0 position (some '/')
                (joinWith "/" (second :: rest)).toList = .ok tokens :=
              fun position => inner position (some '/') fun blocked => blocked.2 rfl
            rw [joinWith, String.intercalate_cons_cons, String.toList_append, String.toList_append,
              Path.toList_slash, List.append_assoc, List.singleton_append]
            refine exists_readFrom_append isRead (Nat.zero_le _) unblocked
              (fun _ member => by cases member; rfl) ?_ position
            intro skip bounded position before
            rcases behind (position + 1) with ⟨others, isOthers⟩
            rcases Nat.le_one_iff_eq_zero_or_eq_one.mp bounded with rfl | rfl
            · exact ⟨_, readFrom_cons_eq_ok_iff.mpr
                ⟨.char '/', 0, others, tokenAt_of_plain (by decide) _ _ _, isOthers, rfl⟩⟩
            · exact ⟨others, by rw [readFrom]; exact isOthers⟩
  exact anywhere 0 none fun blocked => Bool.false_ne_true blocked.1

/-! ## Texts without wildcards -/

theorem readFrom_of_plain {text : List Char} (plain : ∀ c ∈ text, c ∉ wildcards) (position : Nat)
    (before : Option Char) : readFrom 0 position before text = .ok (text.map GlobToken.char) := by
  induction text generalizing position before with
  | nil => rfl
  | cons c rest induction =>
      refine readFrom_cons_eq_ok_iff.mpr ⟨.char c, 0, rest.map GlobToken.char, ?_, ?_, rfl⟩
      · exact tokenAt_of_plain (plain c List.mem_cons_self) _ _ _
      · exact induction (fun other member => plain other (List.mem_cons_of_mem _ member)) _ _

theorem plainText?_chars (text : List Char) :
    GlobStep.plainText? (text.map GlobToken.char) = some text := by
  induction text with
  | nil => rfl
  | cons c rest induction =>
      rw [GlobStep.plainText?, List.map_cons, List.mapM_cons]
      rw [GlobStep.plainText?] at induction
      rw [induction]
      rfl

theorem ofTokens_chars (text : List Char) :
    GlobStep.ofTokens (text.map GlobToken.char) = .name (String.ofList text) := by
  have single : (text.map GlobToken.char).contains .anyDirectories = false := by
    simp
  rw [GlobStep.ofTokens, single, if_neg Bool.false_ne_true, plainText?_chars]

theorem eq_map_of_plainText? {tokens : List GlobToken} {text : List Char}
    (plain : GlobStep.plainText? tokens = some text) : tokens = text.map GlobToken.char := by
  induction tokens generalizing text with
  | nil =>
      cases plain
      rfl
  | cons token rest induction =>
      rw [GlobStep.plainText?, List.mapM_cons] at plain
      rcases Option.bind_eq_some_iff.mp plain with ⟨c, isChar, others⟩
      rcases Option.bind_eq_some_iff.mp others with ⟨chars, isRest, same⟩
      cases same
      rw [List.map_cons, ← induction isRest]
      cases token <;> cases isChar
      rfl

theorem not_char_of_readSet? {text : List Char} {c : Char} {count : Nat} :
    readSet? text ≠ some (.char c, count) := by
  rw [readSet?.eq_def]
  split
  · simp
  · simp
  · simp
  · simp

theorem eq_of_tokenAt_char {position : Nat} {before : Option Char} {c d : Char}
    {rest : List Char} {skip : Nat}
    (isToken : tokenAt position before c rest = .ok (.char d, skip)) : c = d ∧ skip = 0 := by
  by_cases wild : c ∈ wildcards
  · rcases mem_wildcards.mp wild with rfl | rfl | rfl
    · cases isToken
    · rw [tokenAt] at isToken
      split at isToken
      · cases isToken
      · cases check : checkRecursive position before (rest.drop 1) <;> rw [check] at isToken <;>
          cases isToken
      · cases isToken
    · rw [tokenAt] at isToken
      cases set : readSet? rest with
      | none =>
          rw [set] at isToken
          cases isToken
      | some found =>
          rcases found with ⟨token, count⟩
          rw [set] at isToken
          cases isToken
          exact absurd set not_char_of_readSet?
  · rw [tokenAt_of_plain wild] at isToken
    cases isToken
    exact ⟨rfl, rfl⟩

theorem eq_of_readFrom_chars {text chars : List Char} {position : Nat} {before : Option Char}
    (isRead : readFrom 0 position before text = .ok (chars.map GlobToken.char)) : text = chars := by
  induction text generalizing chars position before with
  | nil =>
      rw [readFrom_nil, Except.ok.injEq] at isRead
      exact (List.map_eq_nil_iff.mp isRead.symm).symm
  | cons c rest induction =>
      rcases readFrom_cons_eq_ok_iff.mp isRead with ⟨token, skip, tokens, isToken, isRest, same⟩
      rcases List.map_eq_cons_iff.mp same with ⟨d, others, rfl, rfl, rfl⟩
      rcases eq_of_tokenAt_char isToken with ⟨rfl, rfl⟩
      rw [induction isRest]

/-! ## Steps -/

def ReadsAs (piece : String) (step : GlobStep) : Prop :=
  ∃ tokens, read piece = .ok tokens ∧ step = GlobStep.ofTokens tokens

theorem readsAs_of_plain {piece : String} (plain : ∀ c ∈ piece.toList, c ∉ wildcards) :
    ReadsAs piece (.name piece) :=
  ⟨_, readFrom_of_plain plain 0 none, by rw [ofTokens_chars, String.ofList_toList]⟩

theorem ReadsAs.eq_of_name {piece name : String} (reads : ReadsAs piece (.name name)) :
    name = piece := by
  rcases reads with ⟨tokens, isRead, same⟩
  rw [GlobStep.ofTokens] at same
  split at same
  · cases same
  · split at same
    · next text plain =>
        cases same
        rw [eq_map_of_plainText? plain] at isRead
        rw [← eq_of_readFrom_chars isRead, String.ofList_toList]
    · cases same

theorem ReadsAs.eq_of_empty {step : GlobStep} (reads : ReadsAs "" step) : step = .name "" := by
  rcases reads with ⟨tokens, isRead, rfl⟩
  cases isRead
  rfl

theorem exists_mapM_read {pieces : List String} {steps : List GlobStep}
    (reads : List.Forall₂ ReadsAs pieces steps) :
    ∃ tokens, pieces.mapM read = .ok tokens ∧ tokens.map GlobStep.ofTokens = steps := by
  have each : ∃ tokens, List.Forall₂ (fun piece own => read piece = .ok own) pieces tokens ∧
      tokens.map GlobStep.ofTokens = steps := by
    induction reads with
    | nil => exact ⟨[], .nil, rfl⟩
    | cons first others induction =>
        rcases first with ⟨own, isOwn, rfl⟩
        rcases induction with ⟨tokens, isTokens, rfl⟩
        exact ⟨own :: tokens, .cons isOwn isTokens, rfl⟩
  rcases each with ⟨tokens, isTokens, same⟩
  exact ⟨tokens, mapM_eq_ok_iff.mpr isTokens, same⟩

theorem ReadsAs.exists_of_mem {pieces : List String} {steps : List GlobStep}
    (reads : List.Forall₂ ReadsAs pieces steps) :
    ∀ piece ∈ pieces, ∃ tokens, read piece = .ok tokens := by
  rcases exists_mapM_read reads with ⟨all, isRead, -⟩
  exact exists_of_mapM isRead

/-! ## Whole patterns -/

section

variable {text : String}

theorem eq_slash_end_of_split {front : List String} (divided : split text "/" = front ++ [""])
    (more : front ≠ []) : endsWith text "/" = true := by
  have apart : ∀ piece ∈ front, '/' ∉ piece.toList := by
    intro piece member
    refine not_mem_of_mem_split Path.toList_slash (?_ : piece ∈ split text "/")
    rw [divided]
    exact List.mem_append_left _ member
  have same : split (joinWith "/" front ++ "/" ++ "") "/" = split text "/" := by
    rw [split_append Path.toList_slash, split_joinWith Path.toList_slash apart more, divided]
    rfl
  have whole := joinWith_split Path.toList_slash (joinWith "/" front ++ "/" ++ "")
  rw [same, joinWith_split Path.toList_slash, String.append_empty] at whole
  exact Path.endsWith_slash_iff.mpr ⟨_, whole⟩

theorem endsWith_slash_iff_getLast? (named : text ≠ "") :
    endsWith text "/" = true ↔ (Path.pieces text).getLast? = some "" := by
  constructor
  · intro ends
    rcases Path.endsWith_slash_iff.mp ends with ⟨front, rfl⟩
    rw [Path.pieces_slash_end, List.getLast?_concat]
  · intro last
    rcases List.getLast?_eq_some_iff.mp last with ⟨front, same⟩
    cases absolute : Path.isAbsolute text with
    | true =>
        rcases Path.isAbsolute_iff.mp absolute with ⟨rest, rfl⟩
        rw [Path.pieces_slash] at same
        have divided := Path.split_slash rest
        rw [same, ← List.cons_append] at divided
        exact eq_slash_end_of_split divided (List.cons_ne_nil _ _)
    | false =>
        rw [Path.pieces_of_relative absolute] at same
        refine eq_slash_end_of_split same ?_
        rintro rfl
        have whole := joinWith_split Path.toList_slash text
        rw [same] at whole
        exact named whole.symm

theorem eq_empty_or_mem_pieces {piece : String} (member : piece ∈ split text "/") :
    piece = "" ∨ piece ∈ Path.pieces text := by
  cases absolute : Path.isAbsolute text with
  | false =>
      rw [Path.pieces_of_relative absolute]
      exact .inr member
  | true =>
      rcases Path.isAbsolute_iff.mp absolute with ⟨rest, rfl⟩
      rw [Path.split_slash, List.mem_cons] at member
      rw [Path.pieces_slash]
      exact member

theorem exists_read_of_pieces (each : ∀ piece ∈ Path.pieces text, ∃ tokens, read piece = .ok tokens) :
    ∃ tokens, read text = .ok tokens := by
  rw [← joinWith_split Path.toList_slash text]
  apply exists_read_joinWith
  intro piece member
  rcases eq_empty_or_mem_pieces member with rfl | member
  · exact ⟨[], rfl⟩
  · exact each piece member

/-- The pieces of a pattern, but for what stands behind a slash at the end. -/
def ownPieces (text : String) : List String :=
  if (Path.pieces text).getLast? = some "" then (Path.pieces text).dropLast else Path.pieces text

theorem ownPieces_of_named (named : (Path.pieces text).getLast? ≠ some "") :
    ownPieces text = Path.pieces text := if_neg named

theorem pieces_of_slash (last : (Path.pieces text).getLast? = some "") :
    Path.pieces text = ownPieces text ++ [""] := by
  rcases List.getLast?_eq_some_iff.mp last with ⟨front, same⟩
  rw [ownPieces, if_pos last, same, List.dropLast_concat]

theorem isEmpty_dropLead?_iff :
    ((dropLead? text "/").getD text).isEmpty = true ↔ text = "" ∨ text = "/" := by
  rw [String.isEmpty_iff]
  cases absolute : Path.isAbsolute text with
  | true =>
      rcases Path.isAbsolute_iff.mp absolute with ⟨rest, rfl⟩
      rw [Path.dropLead?_slash, Option.getD_some]
      constructor
      · rintro rfl
        exact .inr rfl
      · rintro (empty | alone)
        · exact (String.append_eq_empty_iff.mp empty).2
        · exact (String.append_right_inj "/").mp (alone.trans String.append_empty.symm)
  | false =>
      rw [Path.dropLead?_of_relative absolute, Option.getD_none]
      refine ⟨.inl, ?_⟩
      rintro (empty | rfl)
      · exact empty
      · cases absolute

def ofNames (text : String) (names : List (List GlobToken)) : Glob where
  absolute := Path.isAbsolute text
  steps := if text = "" ∨ text = "/" then [.name ""] else names.map GlobStep.ofTokens
  directoriesOnly := endsWith text "/"

theorem ofString_eq_bind : ofString text = (read text).bind fun _ =>
    ((ownPieces text).mapM read).bind fun names => .ok (ofNames text names) := by
  simp only [ofNames, ← isEmpty_dropLead?_iff]
  rfl

theorem ofString_eq_ok_iff {glob : Glob} :
    ofString text = .ok glob ↔
      ∃ whole names, read text = .ok whole ∧ (ownPieces text).mapM read = .ok names ∧
        glob = ofNames text names := by
  rw [ofString_eq_bind]
  constructor
  · intro isGlob
    cases isWhole : read text with
    | error fault =>
        rw [isWhole] at isGlob
        cases isGlob
    | ok whole =>
        cases isNames : (ownPieces text).mapM read with
        | error fault =>
            rw [isWhole, isNames] at isGlob
            cases isGlob
        | ok names =>
            rw [isWhole, isNames] at isGlob
            exact ⟨whole, names, rfl, rfl, (Except.ok.inj isGlob).symm⟩
  · rintro ⟨whole, names, isWhole, isNames, rfl⟩
    rw [isWhole, isNames]
    rfl

theorem exists_fault_of_not_read {piece : String} (member : piece ∈ Path.pieces text)
    (unread : ¬∃ tokens, read piece = .ok tokens) : ∃ fault, ofString text = .error fault := by
  cases isGlob : ofString text with
  | error fault => exact ⟨fault, rfl⟩
  | ok glob =>
      rcases ofString_eq_ok_iff.mp isGlob with ⟨-, tokens, -, each, -⟩
      have kept : piece ∈ ownPieces text := by
        by_cases last : (Path.pieces text).getLast? = some ""
        · rw [pieces_of_slash last, List.mem_append, List.mem_singleton] at member
          rcases member with member | rfl
          · exact member
          · exact absurd ⟨[], rfl⟩ unread
        · rwa [ownPieces_of_named last]
      exact absurd (exists_of_mapM each piece kept) unread

theorem ofString_eq {steps : List GlobStep}
    (reads : List.Forall₂ ReadsAs (Path.pieces text) steps)
    (named : (Path.pieces text).getLast? ≠ some "") :
    ofString text = .ok
      { absolute := Path.isAbsolute text, steps := steps, directoriesOnly := false } := by
  have more : ¬(text = "" ∨ text = "/") := by
    rintro (rfl | rfl) <;> exact named rfl
  have noSlash : endsWith text "/" = false := by
    rw [Bool.eq_false_iff]
    intro ends
    exact named ((endsWith_slash_iff_getLast? fun empty => more (.inl empty)).mp ends)
  rcases exists_read_of_pieces (ReadsAs.exists_of_mem reads) with ⟨whole, isWhole⟩
  rcases exists_mapM_read reads with ⟨tokens, isTokens, rfl⟩
  refine ofString_eq_ok_iff.mpr ⟨whole, tokens, isWhole, ?_, ?_⟩
  · rwa [ownPieces_of_named named]
  · rw [ofNames, if_neg more, noSlash]

theorem exists_ofString_of_slash {steps : List GlobStep}
    (reads : List.Forall₂ ReadsAs (Path.pieces text) steps)
    (last : (Path.pieces text).getLast? = some "") :
    ∃ glob, ofString text = .ok glob ∧ (text ≠ "" → glob.directoriesOnly = true) := by
  have each := ReadsAs.exists_of_mem reads
  rcases exists_read_of_pieces each with ⟨whole, isWhole⟩
  have own : ∀ piece ∈ ownPieces text, ∃ tokens, read piece = .ok tokens ∧ True := by
    intro piece member
    rw [pieces_of_slash last] at each
    rcases each piece (List.mem_append_left _ member) with ⟨tokens, isRead⟩
    exact ⟨tokens, isRead, trivial⟩
  rcases exists_mapM own with ⟨tokens, isTokens, -⟩
  exact ⟨_, ofString_eq_ok_iff.mpr ⟨whole, tokens, isWhole, isTokens, rfl⟩,
    fun named => (endsWith_slash_iff_getLast? named).mpr last⟩

end

end LiterateTest.Glob
