import LiterateTest.Document.FrontMatter
import LiterateTest.Proofs.Text

/-! How a document is divided into its front matter and its body. The division is exact: no line is
lost, and a header that is written in front of a body is found again. -/

namespace LiterateTest

/-! ## Delimiters -/

namespace Division

def IsDelimiter (line : List Char) : Prop :=
  ∃ blanks, line = ['-', '-', '-'] ++ blanks ∧ ∀ c ∈ blanks, Text.isBlank c = true

theorem isDelimiter_iff {line : List Char} : isDelimiter line = true ↔ IsDelimiter line := by
  rw [isDelimiter, beq_iff_eq]
  constructor
  · intro same
    refine ⟨line.rtakeWhile Text.isBlank, ?_, fun c => List.mem_rtakeWhile_imp⟩
    rw [← same]
    exact List.rdropWhile_append_rtakeWhile.symm
  · rintro ⟨blanks, rfl, allBlank⟩
    rw [Text.dropBlankEnd, List.reverse_append,
      List.dropWhile_append_of_pos fun c member => allBlank c (List.mem_reverse.mp member)]
    rfl

/-! ## Headers -/

theorem splitAtDelimiter?_eq_none_iff {lines : List (List Char)} :
    splitAtDelimiter? lines = none ↔ ∀ line ∈ lines, ¬IsDelimiter line := by
  induction lines with
  | nil => simp [splitAtDelimiter?]
  | cons line rest induction =>
      rw [splitAtDelimiter?, List.forall_mem_cons, ← induction, ← isDelimiter_iff]
      split
      · next isOne => simp [isOne]
      · next isNone => simp [isNone]

theorem splitAtDelimiter?_append {yaml body : List (List Char)} {delimiter : List Char}
    (noEarlier : ∀ line ∈ yaml, ¬IsDelimiter line) (ends : IsDelimiter delimiter) :
    splitAtDelimiter? (yaml ++ delimiter :: body) = some (yaml, body) := by
  induction yaml with
  | nil => rw [List.nil_append, splitAtDelimiter?, if_pos (isDelimiter_iff.mpr ends)]
  | cons line rest induction =>
      have isNone : ¬isDelimiter line = true :=
        fun isOne => noEarlier line List.mem_cons_self (isDelimiter_iff.mp isOne)
      rw [List.cons_append, splitAtDelimiter?, if_neg isNone,
        induction fun line member => noEarlier line (List.mem_cons_of_mem _ member)]
      rfl

theorem eq_of_splitAtDelimiter? {lines yaml body : List (List Char)}
    (found : splitAtDelimiter? lines = some (yaml, body)) :
    ∃ delimiter, lines = yaml ++ delimiter :: body ∧ (∀ line ∈ yaml, ¬IsDelimiter line) ∧
      IsDelimiter delimiter := by
  induction lines generalizing yaml with
  | nil => cases found
  | cons line rest induction =>
      rw [splitAtDelimiter?] at found
      split at found
      · next isOne =>
          cases found
          exact ⟨line, rfl, List.forall_mem_nil _, isDelimiter_iff.mp isOne⟩
      · next isNone =>
          obtain ⟨⟨before, after⟩, inRest, same⟩ := Option.map_eq_some_iff.mp found
          cases same
          obtain ⟨delimiter, rfl, noEarlier, ends⟩ := induction inRest
          refine ⟨delimiter, rfl, ?_, ends⟩
          rw [List.forall_mem_cons]
          exact ⟨mt isDelimiter_iff.mpr isNone, noEarlier⟩

/-! ## Documents -/

end Division

open Division (IsDelimiter)

namespace FrontMatter

/-- What a document is split into, by its lines. The answer that the header gets is given on, be it a
fault. -/
inductive IsSplit (path : String) :
    List (List Char) → Except Fault (FrontMatter × String) → Prop
  | bodyOnly {lines : List (List Char)} (closed : ∀ first ∈ lines.head?, ¬IsDelimiter first) :
      IsSplit path lines (.ok ({}, String.ofList lines.flatten))
  | unterminated {first : List Char} {rest : List (List Char)} (opens : IsDelimiter first)
      (noEnd : ∀ line ∈ rest, ¬IsDelimiter line) :
      IsSplit path (first :: rest) (.error (.unterminatedFrontMatter path))
  | divided {first delimiter : List Char} {yaml body : List (List Char)}
      (opens : IsDelimiter first) (noEarlier : ∀ line ∈ yaml, ¬IsDelimiter line)
      (ends : IsDelimiter delimiter) :
      IsSplit path (first :: (yaml ++ delimiter :: body))
        ((ofYaml (String.ofList yaml.flatten)).map (·, String.ofList body.flatten))

theorem IsSplit.split_eq {content path : String} {lines : List (List Char)}
    {result : Except Fault (FrontMatter × String)}
    (isLines : Text.linesWithBreaks (dropByteOrderMark content.toList) = lines)
    (isSplit : IsSplit path lines result) : split content path = result := by
  have whole : dropByteOrderMark content.toList = lines.flatten := by
    rw [← isLines, Text.flatten_linesWithBreaks]
  rw [split]
  cases isSplit with
  | bodyOnly closed =>
      have division : Division.ofChars (dropByteOrderMark content.toList) = .bodyOnly := by
        rw [Division.ofChars, isLines]
        cases lines with
        | nil => rfl
        | cons first rest =>
            exact if_neg fun isOne => closed first rfl (Division.isDelimiter_iff.mp isOne)
      rw [division, whole]
  | unterminated opens noEnd =>
      have division : Division.ofChars (dropByteOrderMark content.toList) = .unterminated := by
        rw [Division.ofChars, isLines]
        dsimp only
        rw [if_pos (Division.isDelimiter_iff.mpr opens),
          Division.splitAtDelimiter?_eq_none_iff.mpr noEnd]
      rw [division]
  | @divided first delimiter yaml body opens noEarlier ends =>
      have division : Division.ofChars (dropByteOrderMark content.toList) =
          .divided yaml.flatten body.flatten := by
        rw [Division.ofChars, isLines]
        dsimp only
        rw [if_pos (Division.isDelimiter_iff.mpr opens),
          Division.splitAtDelimiter?_append noEarlier ends]
      rw [division]
      dsimp only
      cases ofYaml (String.ofList yaml.flatten) <;> rfl

theorem exists_isSplit (path : String) (lines : List (List Char)) :
    ∃ result, IsSplit path lines result := by
  cases lines with
  | nil => exact ⟨_, .bodyOnly fun first member => nomatch member⟩
  | cons first rest =>
      by_cases opens : IsDelimiter first
      · cases found : Division.splitAtDelimiter? rest with
        | none =>
            exact ⟨_, .unterminated opens (Division.splitAtDelimiter?_eq_none_iff.mp found)⟩
        | some parts =>
            obtain ⟨delimiter, rfl, noEarlier, ends⟩ := Division.eq_of_splitAtDelimiter? found
            exact ⟨_, .divided opens noEarlier ends⟩
      · refine ⟨_, .bodyOnly ?_⟩
        rintro _ ⟨⟩
        exact opens

theorem split_eq_iff {content path : String} {lines : List (List Char)}
    (isLines : Text.linesWithBreaks (dropByteOrderMark content.toList) = lines)
    {result : Except Fault (FrontMatter × String)} :
    split content path = result ↔ IsSplit path lines result := by
  constructor
  · rintro rfl
    obtain ⟨result, isSplit⟩ := exists_isSplit path lines
    rw [isSplit.split_eq isLines]
    exact isSplit
  · exact IsSplit.split_eq isLines

theorem ofYaml_blank {yaml : String} (blank : Text.isBlankText yaml = true) :
    ofYaml yaml = .ok {} := if_pos blank

/-! ## Written headers -/

theorem linesWithBreaks_written {yaml : String} (ends : yaml = "" ∨ ∃ start, yaml = start ++ "\n")
    (body : String) :
    Text.linesWithBreaks (dropByteOrderMark ("---\n" ++ yaml ++ "---\n" ++ body).toList) =
      "---\n".toList ::
        (Text.linesWithBreaks yaml.toList ++
          "---\n".toList :: Text.linesWithBreaks body.toList) := by
  have yamlEnds : ∀ last ∈ yaml.toList.getLast?, last = '\n' := by
    rcases ends with rfl | ⟨start, rfl⟩
    · exact fun last member => nomatch member
    · simp
  have noMark : dropByteOrderMark ("---\n" ++ yaml ++ "---\n" ++ body).toList =
      ['-', '-', '-'] ++ '\n' :: (yaml.toList ++ (['-', '-', '-'] ++ '\n' :: body.toList)) := by
    simp only [String.toList_append, List.append_assoc]
    rfl
  have noBreak : '\n' ∉ ['-', '-', '-'] := by decide
  rw [noMark, Text.linesWithBreaks_append_break noBreak, Text.linesWithBreaks_append yamlEnds,
    Text.linesWithBreaks_append_break noBreak]
  rfl

theorem isDelimiter_written : IsDelimiter "---\n".toList :=
  ⟨['\n'], rfl, List.forall_mem_singleton.mpr (by decide)⟩

theorem split_written {yaml : String} (ends : yaml = "" ∨ ∃ start, yaml = start ++ "\n")
    (noDelimiter : ∀ line ∈ Text.linesWithBreaks yaml.toList, ¬IsDelimiter line)
    (body path : String) :
    split ("---\n" ++ yaml ++ "---\n" ++ body) path = (ofYaml yaml).map (·, body) := by
  have isSplit : IsSplit path
      ("---\n".toList ::
        (Text.linesWithBreaks yaml.toList ++ "---\n".toList :: Text.linesWithBreaks body.toList)) _ :=
    .divided isDelimiter_written noDelimiter isDelimiter_written
  rw [isSplit.split_eq (linesWithBreaks_written ends body), Text.flatten_linesWithBreaks,
    Text.flatten_linesWithBreaks, String.ofList_toList, String.ofList_toList]

/-- Front matter is split off exactly. A document has its lines in one way only, and together they are
the document, a byte order mark in front of it apart; what it is split into is as `IsSplit` says for
these lines. Blank front matter sets nothing. And what is written between two delimiters in front of a
body comes back with this body, if it has no delimiter among its lines and does not end inside of a
line. -/
theorem split_exact (content path : String) :
    (∃! lines, Text.HasLines (dropByteOrderMark content.toList) lines) ∧
    (∀ lines, Text.HasLines (dropByteOrderMark content.toList) lines →
      dropByteOrderMark content.toList = lines.flatten ∧
      ∀ result, split content path = result ↔ IsSplit path lines result) ∧
    (∀ yaml, Text.isBlankText yaml = true → ofYaml yaml = .ok {}) ∧
    ∀ yaml body, (yaml = "" ∨ ∃ start, yaml = start ++ "\n") →
      (∀ lines, Text.HasLines yaml.toList lines → ∀ line ∈ lines, ¬IsDelimiter line) →
      split ("---\n" ++ yaml ++ "---\n" ++ body) path = (ofYaml yaml).map (·, body) := by
  refine ⟨⟨_, Text.hasLines_linesWithBreaks _, ?_⟩, ?_, fun yaml => ofYaml_blank, ?_⟩
  · intro lines isLines
    exact isLines.linesWithBreaks_eq.symm
  · intro lines isLines
    refine ⟨?_, fun result => split_eq_iff isLines.linesWithBreaks_eq⟩
    rw [← isLines.linesWithBreaks_eq, Text.flatten_linesWithBreaks]
  · intro yaml body ends noDelimiter
    exact split_written ends (noDelimiter _ (Text.hasLines_linesWithBreaks _)) body path

theorem split_exact_of_lineEnds :
    let content := "\ufeff---\r\nexec: tool\n---\t\n---\n"
    let lines := ["---\r\n", "exec: tool\n", "---\t\n", "---\n"].map String.toList
    let yaml := "exec: tool\n"
    Text.HasLines (dropByteOrderMark content.toList) lines ∧
    split content "a.md" = (ofYaml yaml).map (·, "---\n") ∧
    Text.isBlankText "\t\n" = true ∧ ofYaml "\t\n" = .ok {} ∧
    (yaml = "" ∨ ∃ start, yaml = start ++ "\n") ∧
    (∀ lines, Text.HasLines yaml.toList lines → ∀ line ∈ lines, ¬IsDelimiter line) ∧
    split ("---\n" ++ yaml ++ "---\n" ++ "---\n") "a.md" = (ofYaml yaml).map (·, "---\n") := by
  intro content lines yaml
  have exact := split_exact content "a.md"
  have isLines : Text.HasLines (dropByteOrderMark content.toList) lines :=
    Text.hasLines_iff.mpr (by decide)
  have notOne : ∀ line, Division.isDelimiter line = false → ¬IsDelimiter line := by
    intro line isNone isOne
    rw [Division.isDelimiter_iff.mpr isOne] at isNone
    cases isNone
  have noEarlier : ∀ line ∈ [yaml.toList], ¬IsDelimiter line := by
    rw [List.forall_mem_singleton]
    exact notOne _ (by decide)
  have opens : IsDelimiter "---\r\n".toList := Division.isDelimiter_iff.mp (by decide)
  have closes : IsDelimiter "---\t\n".toList := Division.isDelimiter_iff.mp (by decide)
  have header : String.ofList [yaml.toList].flatten = yaml := by decide
  have rest : String.ofList ["---\n".toList].flatten = "---\n" := by decide
  have isSplit : IsSplit "a.md" lines
      ((ofYaml (String.ofList [yaml.toList].flatten)).map
        (·, String.ofList ["---\n".toList].flatten)) :=
    .divided opens noEarlier closes
  rw [header, rest] at isSplit
  have ends : yaml = "" ∨ ∃ start, yaml = start ++ "\n" := .inr ⟨"exec: tool", by decide⟩
  have noDelimiter : ∀ lines, Text.HasLines yaml.toList lines →
      ∀ line ∈ lines, ¬IsDelimiter line := by
    intro lines isLines
    have single : lines = [yaml.toList] := isLines.linesWithBreaks_eq.symm.trans (by decide)
    rw [single]
    exact noEarlier
  have blank : Text.isBlankText "\t\n" = true := by decide
  exact ⟨isLines, ((exact.2.1 lines isLines).2 _).mpr isSplit, blank, exact.2.2.1 _ blank, ends,
    noDelimiter, exact.2.2.2 yaml "---\n" ends noDelimiter⟩

end FrontMatter

end LiterateTest
