import LiterateTest.Text.Basic
import Mathlib.Data.List.DropRight

/-! Blanks at the ends of texts, what texts begin with, and their lines. -/

namespace LiterateTest.Text

variable {text : List Char}

/-! ## Blanks -/

theorem isBlank_getLast_trimChars (nonempty : trimChars text ≠ []) :
    isBlank ((trimChars text).getLast nonempty) = false :=
  Bool.eq_false_iff.mpr (List.rdropWhile_last_not isBlank (text.dropWhile isBlank) nonempty)

theorem isBlank_of_trimChars_eq_nil (empty : trimChars text = []) :
    ∀ c ∈ text, isBlank c = true := by
  have inside : ∀ c ∈ text.dropWhile isBlank, isBlank c = true :=
    List.rdropWhile_eq_nil_iff.mp empty
  apply List.dropWhile_eq_nil_iff.mp
  by_contra nonempty
  have first := List.head_dropWhile_not isBlank nonempty
  rw [inside _ (List.head_mem nonempty)] at first
  cases first

theorem trimChars_trimChars (text : List Char) : trimChars (trimChars text) = trimChars text := by
  have starts : trimChars text <+: text.dropWhile isBlank := List.rdropWhile_prefix isBlank _
  have noStart : (trimChars text).dropWhile isBlank = trimChars text := by
    apply List.dropWhile_eq_self_iff.mpr
    intro positive
    rw [starts.getElem positive, Bool.not_eq_true]
    have nonempty : text.dropWhile isBlank ≠ [] :=
      List.ne_nil_of_length_pos (Nat.lt_of_lt_of_le positive starts.length_le)
    rw [← List.head_eq_getElem nonempty]
    exact List.head_dropWhile_not isBlank nonempty
  rw [trimChars, noStart]
  exact List.rdropWhile_idempotent isBlank (text.dropWhile isBlank)

theorem trimChars_visible {first last : Char} (inside : List Char)
    (visible : isBlank first = false ∧ isBlank last = false) :
    trimChars (first :: (inside ++ [last])) = first :: (inside ++ [last]) := by
  rw [trimChars, List.dropWhile_cons, visible.1, ← List.cons_append]
  simp [dropBlankEnd, visible.2]

theorem trimChars_infix (text : List Char) : trimChars text <:+: text :=
  (List.rdropWhile_prefix isBlank _).isInfix.trans (List.dropWhile_suffix isBlank).isInfix

theorem filter_dropWhile_blank (text : List Char) :
    (text.dropWhile isBlank).filter (!isBlank ·) = text.filter (!isBlank ·) := by
  conv => rhs; rw [← List.takeWhile_append_dropWhile (p := isBlank) (l := text), List.filter_append]
  have blank : (text.takeWhile isBlank).filter (!isBlank ·) = [] := by
    apply List.filter_eq_nil_iff.mpr
    intro c member
    simpa using List.mem_takeWhile_imp member
  rw [blank, List.nil_append]

theorem filter_trimChars (text : List Char) :
    (trimChars text).filter (!isBlank ·) = text.filter (!isBlank ·) := by
  rw [trimChars, dropBlankEnd, List.filter_reverse, filter_dropWhile_blank, List.filter_reverse,
    List.reverse_reverse, filter_dropWhile_blank]

theorem trimChars_append_of_blank (text : List Char) {rest : List Char}
    (blank : ∀ c ∈ rest, isBlank c = true) : trimChars (text ++ rest) = trimChars text := by
  have noEnd : ∀ front : List Char, dropBlankEnd (front ++ rest) = dropBlankEnd front := by
    intro front
    rw [dropBlankEnd, List.reverse_append, List.dropWhile_append_of_pos]
    · rfl
    · simpa using blank
  rw [trimChars, trimChars, List.dropWhile_append]
  split
  · next nothing =>
      rw [List.isEmpty_iff.mp nothing, List.dropWhile_eq_nil_iff.mpr blank]
  · exact noEnd _

theorem trim_append_eq_iff {front rest : String} :
    trim (front ++ rest) = trim front ↔ isBlankText rest = true := by
  rw [trim, trim, String.toList_append, isBlankText, List.all_eq_true]
  constructor
  · intro same c member
    have kept := filter_trimChars (front.toList ++ rest.toList)
    rw [String.ofList_injective same, filter_trimChars, List.filter_append] at kept
    have none : rest.toList.filter (!isBlank ·) = [] := by simpa using kept
    simpa using List.filter_eq_nil_iff.mp none c member
  · intro blank
    rw [trimChars_append_of_blank front.toList blank]

/-! ## Parts -/

theorem containsChars_iff_infix {needle : List Char} :
    containsChars needle text = true ↔ needle <:+: text := by
  induction text with
  | nil => simp [containsChars]
  | cons c rest induction =>
      rw [containsChars, Bool.or_eq_true, List.isPrefixOf_iff_prefix, induction,
        List.infix_cons_iff]

theorem infix_intercalate {separator part : List Char} {parts : List (List Char)}
    (member : part ∈ parts) : part <:+: separator.intercalate parts := by
  induction parts with
  | nil => cases member
  | cons first others induction =>
      cases others with
      | nil =>
          cases List.mem_singleton.mp member
          exact ⟨[], [], by simp⟩
      | cons second others =>
          rw [List.intercalate_cons_cons]
          rcases List.mem_cons.mp member with rfl | member
          · exact ((List.prefix_append part _).trans (List.prefix_append _ _)).isInfix
          · exact (induction member).trans (List.suffix_append _ _).isInfix

theorem infix_joinWith (separator : String) {item : String} {items : List String}
    (member : item ∈ items) : item.toList <:+: (joinWith separator items).toList := by
  rw [joinWith, String.toList_intercalate]
  exact infix_intercalate (List.mem_map_of_mem member)

/-! ## Leads -/

theorem eq_of_stripLead? {lead rest : List Char} (found : stripLead? lead text = some rest) :
    text = lead ++ rest := by
  induction lead generalizing text with
  | nil => exact Option.some.inj found
  | cons c lead induction =>
      cases text with
      | nil => cases found
      | cons d text =>
          rw [stripLead?] at found
          split at found
          · next same => rw [same, List.cons_append, induction found]
          · cases found

/-! ## Lines -/

/-- The lines of a text. Each but the last ends with a line feed, and no line holds another one. -/
inductive HasLines : List Char → List (List Char) → Prop
  | none : HasLines [] []
  | last {line : List Char} (nonempty : line ≠ []) (noBreak : '\n' ∉ line) : HasLines line [line]
  | line {inside rest : List Char} {lines : List (List Char)} (noBreak : '\n' ∉ inside)
      (others : HasLines rest lines) :
      HasLines (inside ++ '\n' :: rest) ((inside ++ ['\n']) :: lines)

theorem linesWithBreaks_of_noBreak (nonempty : text ≠ []) (noBreak : '\n' ∉ text) :
    linesWithBreaks text = [text] := by
  induction text with
  | nil => exact absurd rfl nonempty
  | cons c rest induction =>
      rw [List.mem_cons, not_or] at noBreak
      rw [linesWithBreaks, if_neg (Ne.symm noBreak.1)]
      cases rest with
      | nil => rfl
      | cons d rest => rw [induction (List.cons_ne_nil d rest) noBreak.2]

theorem linesWithBreaks_append_break {inside : List Char} (noBreak : '\n' ∉ inside)
    (rest : List Char) :
    linesWithBreaks (inside ++ '\n' :: rest) = (inside ++ ['\n']) :: linesWithBreaks rest := by
  induction inside with
  | nil => rfl
  | cons c inside induction =>
      rw [List.mem_cons, not_or] at noBreak
      rw [List.cons_append, linesWithBreaks, if_neg (Ne.symm noBreak.1), induction noBreak.2]
      rfl

theorem HasLines.linesWithBreaks_eq {lines : List (List Char)} (divided : HasLines text lines) :
    linesWithBreaks text = lines := by
  induction divided with
  | none => rfl
  | last nonempty noBreak => exact linesWithBreaks_of_noBreak nonempty noBreak
  | line noBreak _ induction => rw [linesWithBreaks_append_break noBreak, induction]

theorem hasLines_linesWithBreaks (text : List Char) : HasLines text (linesWithBreaks text) := by
  induction text with
  | nil => exact .none
  | cons c rest induction =>
      rw [linesWithBreaks]
      split
      · next isBreak =>
          rw [isBreak]
          exact @HasLines.line [] _ _ List.not_mem_nil induction
      · next noBreak =>
          generalize linesWithBreaks rest = lines at induction ⊢
          cases induction with
          | none => exact .last (List.cons_ne_nil c []) (by simpa using Ne.symm noBreak)
          | last _ noOther =>
              exact .last (List.cons_ne_nil c rest) (by simp [Ne.symm noBreak, noOther])
          | @line inside _ _ noOther others =>
              exact @HasLines.line (c :: inside) _ _ (by simp [Ne.symm noBreak, noOther]) others

theorem hasLines_iff {lines : List (List Char)} :
    HasLines text lines ↔ linesWithBreaks text = lines :=
  ⟨HasLines.linesWithBreaks_eq, fun same => same ▸ hasLines_linesWithBreaks text⟩

theorem linesWithBreaks_append (ends : ∀ last ∈ text.getLast?, last = '\n') (other : List Char) :
    linesWithBreaks (text ++ other) = linesWithBreaks text ++ linesWithBreaks other := by
  have divided := hasLines_linesWithBreaks text
  generalize linesWithBreaks text = lines at divided ⊢
  induction divided with
  | none => rfl
  | @last line nonempty noBreak =>
      have isBreak := ends _ (List.getLast?_eq_some_getLast nonempty)
      exact absurd (isBreak ▸ List.getLast_mem nonempty) noBreak
  | @line inside rest lines noBreak _ induction =>
      have restEnds : ∀ last ∈ rest.getLast?, last = '\n' := by
        intro last member
        apply ends
        rw [List.append_cons]
        exact List.mem_getLast?_append_of_mem_getLast? member
      rw [List.append_assoc, List.cons_append, linesWithBreaks_append_break noBreak,
        induction restEnds]
      rfl

end LiterateTest.Text
