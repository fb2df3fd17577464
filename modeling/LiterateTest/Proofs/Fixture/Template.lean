import LiterateTest.Fixture.Basic
import LiterateTest.Proofs.Record
import LiterateTest.Proofs.Text
import Mathlib.Data.List.Nodup

/-! Templates. The placeholders of one variable after the other are replaced, each in all of the text
that there is by then. That is a replacement of all placeholders in a single scan as long as every
pass finds its placeholder just where the text itself has it. -/

namespace LiterateTest.Template

/-! ## Placeholders -/

/-- Names whose placeholders cannot overlap. -/
def IsPlain (key : String) : Prop := '\x7b' ∉ key.toList ∧ '\x7d' ∉ key.toList

instance (key : String) : Decidable (IsPlain key) := inferInstanceAs (Decidable (_ ∧ _))

theorem toList_placeholder (key : String) :
    (placeholder key).toList = '\x7b' :: '\x7b' :: (key.toList ++ ['\x7d', '\x7d']) := by
  rw [placeholder, String.toList_append, String.toList_append]
  rfl

theorem placeholder_ne_nil (key : String) : (placeholder key).toList ≠ [] := by
  rw [toList_placeholder]
  exact List.cons_ne_nil _ _

theorem eq_of_closed {first second : List Char} (closed : '\x7d' ∉ first ∧ '\x7d' ∉ second)
    {rest other : List Char} (same : first ++ '\x7d' :: rest = second ++ '\x7d' :: other) :
    first = second ∧ rest = other := by
  induction first generalizing second with
  | nil =>
      cases second with
      | nil => exact ⟨rfl, (List.cons.inj same).2⟩
      | cons c second => exact absurd ((List.cons.inj same).1 ▸ List.mem_cons_self) closed.2
  | cons c first induction =>
      cases second with
      | nil => exact absurd ((List.cons.inj same).1 ▸ List.mem_cons_self) closed.1
      | cons d second =>
          have parts := List.cons.inj same
          have inside := induction
            ⟨fun member => closed.1 (List.mem_cons_of_mem c member),
              fun member => closed.2 (List.mem_cons_of_mem d member)⟩ parts.2
          exact ⟨by rw [parts.1, inside.1], inside.2⟩

section

variable {key other : String} {rest text : List Char}

theorem eq_of_placeholder_append (plain : IsPlain key) (otherPlain : IsPlain other)
    (same : (placeholder key).toList ++ rest = (placeholder other).toList ++ text) :
    key = other ∧ rest = text := by
  rw [toList_placeholder, toList_placeholder, List.cons_append, List.cons_append, List.cons_append,
    List.cons_append, List.append_assoc, List.append_assoc] at same
  have names := eq_of_closed ⟨plain.2, otherPlain.2⟩ (List.cons.inj (List.cons.inj same).2).2
  exact ⟨String.toList_inj.mp names.1, (List.cons.inj names.2).2⟩

theorem not_prefix_inside (plain : IsPlain key) {before inside : List Char}
    (cut : (placeholder key).toList = before ++ inside) (started : before ≠ [])
    (unfinished : inside ≠ []) : ¬(placeholder other).toList <+: inside ++ rest := by
  have noBrace : '\x7b' ∉ key.toList ++ ['\x7d', '\x7d'] := by simp [plain.1]
  have noBraceFirst : ∀ {part more others : List Char},
      part ≠ [] → part <:+ key.toList ++ ['\x7d', '\x7d'] → part ++ more ≠ '\x7b' :: others := by
    intro part more others nonempty inName same
    rcases List.append_eq_cons_iff.mp same with ⟨empty, -⟩ | ⟨more, rfl, -⟩
    · exact nonempty empty
    · exact noBrace (inName.subset List.mem_cons_self)
  rintro ⟨others, same⟩
  rw [toList_placeholder] at cut same
  match before with
  | [] => exact started rfl
  | [_] =>
      have whole : inside = '\x7b' :: (key.toList ++ ['\x7d', '\x7d']) := (List.cons.inj cut).2.symm
      rw [whole] at same
      exact noBraceFirst (by simp) List.suffix_rfl (List.cons.inj same).2.symm
  | _ :: _ :: before =>
      have inName : inside <:+ key.toList ++ ['\x7d', '\x7d'] :=
        ⟨before, (List.cons.inj (List.cons.inj cut).2).2.symm⟩
      exact noBraceFirst unfinished inName same.symm

end

/-! ## How often a placeholder stands in a text -/

def countPlaces (part : List Char) : List Char → Nat
  | [] => 0
  | c :: rest => (if part.isPrefixOf (c :: rest) then 1 else 0) + countPlaces part rest

def occurrences (key text : String) : Nat := countPlaces (placeholder key).toList text.toList

section

variable {part rest : List Char}

theorem countPlaces_cons_of_absent {c : Char} (noPart : ¬part <+: c :: rest) :
    countPlaces part (c :: rest) = countPlaces part rest := by
  rw [countPlaces, if_neg (mt List.isPrefixOf_iff_prefix.mp noPart), Nat.zero_add]

theorem countPlaces_cons_of_present {c : Char} (starts : part <+: c :: rest) :
    countPlaces part (c :: rest) = countPlaces part rest + 1 := by
  rw [countPlaces, if_pos (List.isPrefixOf_iff_prefix.mpr starts), Nat.add_comm]

theorem countPlaces_le_append (before : List Char) :
    countPlaces part rest ≤ countPlaces part (before ++ rest) := by
  induction before with
  | nil => exact Nat.le_refl _
  | cons c before induction => exact Nat.le_trans induction (Nat.le_add_left _ _)

variable {key other : String}

theorem countPlaces_inside (plain : IsPlain key) {before inside : List Char}
    (cut : (placeholder key).toList = before ++ inside) (started : before ≠ []) :
    countPlaces (placeholder other).toList (inside ++ rest) =
      countPlaces (placeholder other).toList rest := by
  induction inside generalizing before with
  | nil => rfl
  | cons c inside induction =>
      have noPlace : ¬(placeholder other).toList <+: c :: (inside ++ rest) :=
        not_prefix_inside plain cut started (List.cons_ne_nil c inside)
      rw [List.cons_append, countPlaces_cons_of_absent noPlace]
      exact induction (cut.trans (List.append_cons before c inside)) (by simp)

theorem countPlaces_placeholder_append (plain : IsPlain key) :
    countPlaces (placeholder other).toList ((placeholder key).toList ++ rest) =
      (if (placeholder other).toList.isPrefixOf ((placeholder key).toList ++ rest) then 1 else 0) +
        countPlaces (placeholder other).toList rest := by
  obtain ⟨c, inside, cut⟩ : ∃ c inside, (placeholder key).toList = [c] ++ inside :=
    ⟨_, _, toList_placeholder key⟩
  have inner : countPlaces (placeholder other).toList (inside ++ rest) =
      countPlaces (placeholder other).toList rest :=
    countPlaces_inside plain cut (List.cons_ne_nil c [])
  rw [cut, ← inner]
  rfl

theorem countPlaces_placeholder_self (plain : IsPlain key) :
    countPlaces (placeholder key).toList ((placeholder key).toList ++ rest) =
      countPlaces (placeholder key).toList rest + 1 := by
  have starts := List.prefix_append (placeholder key).toList rest
  rw [countPlaces_placeholder_append plain, if_pos (List.isPrefixOf_iff_prefix.mpr starts),
    Nat.add_comm]

theorem countPlaces_placeholder_of_ne (plain : IsPlain key) (otherPlain : IsPlain other)
    (different : key ≠ other) :
    countPlaces (placeholder other).toList ((placeholder key).toList ++ rest) =
      countPlaces (placeholder other).toList rest := by
  have noPrefix : ¬(placeholder other).toList <+: (placeholder key).toList ++ rest := by
    rintro ⟨others, same⟩
    exact different (eq_of_placeholder_append otherPlain plain same).1.symm
  rw [countPlaces_placeholder_append plain, if_neg (mt List.isPrefixOf_iff_prefix.mp noPrefix),
    Nat.zero_add]

end

/-! ## Replacement in a single scan -/

/-- What becomes of a text if it is read once from left to right and the placeholders of all variables
are replaced on the way. What comes from a value is not read again, and all else stays. -/
inductive Substitutes (vars : Record String) : List Char → List Char → Prop
  | done : Substitutes vars [] []
  | replaced {key value : String} {rest result : List Char} (member : (key, value) ∈ vars)
      (others : Substitutes vars rest result) :
      Substitutes vars ((placeholder key).toList ++ rest) (value.toList ++ result)
  | kept {c : Char} {rest result : List Char}
      (noPlaceholder : ∀ key ∈ vars.keys, ¬(placeholder key).toList <+: c :: rest)
      (others : Substitutes vars rest result) : Substitutes vars (c :: rest) (c :: result)

structure ArePlain (vars : Record String) : Prop where
  plain : ∀ key ∈ vars.keys, IsPlain key
  distinct : vars.keys.Nodup

theorem ArePlain.of_append {before after : Record String} (plain : ArePlain (before ++ after)) :
    ArePlain before := by
  have keys : (before ++ after).keys = before.keys ++ after.keys := List.map_append
  constructor
  · intro key member
    exact plain.plain key (keys ▸ List.mem_append_left _ member)
  · have distinct := plain.distinct
    rw [keys] at distinct
    exact List.Nodup.of_append_left distinct

namespace Substitutes

variable {vars : Record String} {key : String} {rest result : List Char}

theorem eq_nil (substitutes : Substitutes vars [] result) : result = [] := by
  generalize whole : ([] : List Char) = text at substitutes
  cases substitutes with
  | done => rfl
  | @replaced name _ _ _ _ _ =>
      exact absurd (List.append_eq_nil_iff.mp whole.symm).1 (placeholder_ne_nil name)
  | kept _ _ => cases whole

theorem of_placeholder (plain : ArePlain vars) {value : String} (member : (key, value) ∈ vars)
    (substitutes : Substitutes vars ((placeholder key).toList ++ rest) result) :
    ∃ others, result = value.toList ++ others ∧ Substitutes vars rest others := by
  have known : key ∈ vars.keys := List.mem_map_of_mem member
  generalize whole : (placeholder key).toList ++ rest = text at substitutes
  cases substitutes with
  | done => exact absurd (List.append_eq_nil_iff.mp whole).1 (placeholder_ne_nil key)
  | @replaced name other _ _ otherMember others =>
      have same := eq_of_placeholder_append (plain.plain key known)
        (plain.plain name (List.mem_map_of_mem otherMember)) whole
      have entries := List.inj_on_of_nodup_map plain.distinct member otherMember same.1
      cases entries
      rw [same.2]
      exact ⟨_, rfl, others⟩
  | kept noPlaceholder others =>
      exact absurd (whole ▸ List.prefix_append _ _) (noPlaceholder key known)

theorem of_kept {c : Char} (noPlaceholder : ∀ key ∈ vars.keys, ¬(placeholder key).toList <+: c :: rest)
    (substitutes : Substitutes vars (c :: rest) result) :
    ∃ others, result = c :: others ∧ Substitutes vars rest others := by
  generalize whole : c :: rest = text at substitutes
  cases substitutes with
  | done => cases whole
  | @replaced name other _ _ member others =>
      exact absurd (whole ▸ List.prefix_append _ _) (noPlaceholder name (List.mem_map_of_mem member))
  | kept _ others =>
      cases whole
      exact ⟨_, rfl, others⟩

theorem of_unknown (plainKey : IsPlain key) (unknown : key ∉ vars.keys)
    (plain : ArePlain vars)
    (substitutes : Substitutes vars ((placeholder key).toList ++ rest) result) :
    ∃ others, result = (placeholder key).toList ++ others ∧ Substitutes vars rest others := by
  have inside : ∀ {before inside result : List Char}, (placeholder key).toList = before ++ inside →
      Substitutes vars (inside ++ rest) result →
      ∃ others, result = inside ++ others ∧ Substitutes vars rest others := by
    intro before inside
    induction inside generalizing before with
    | nil => exact fun _ substitutes => ⟨_, rfl, substitutes⟩
    | cons c inside induction =>
        intro result cut substitutes
        have noPlaceholder : ∀ name ∈ vars.keys,
            ¬(placeholder name).toList <+: c :: (inside ++ rest) := by
          intro name member starts
          by_cases start : before = []
          · rw [start, List.nil_append] at cut
            rw [← List.cons_append, ← cut] at starts
            obtain ⟨others, same⟩ := starts
            have names := eq_of_placeholder_append (plain.plain name member) plainKey same
            exact unknown (names.1 ▸ member)
          · exact not_prefix_inside plainKey cut start (List.cons_ne_nil c inside) starts
        obtain ⟨_, rfl, behind⟩ := of_kept noPlaceholder substitutes
        obtain ⟨others, rfl, behindAll⟩ :=
          induction (cut.trans (List.append_cons before c inside)) behind
        exact ⟨others, rfl, behindAll⟩
  exact inside (List.nil_append _).symm substitutes

theorem unique (plain : ArePlain vars) {text other : List Char}
    (first : Substitutes vars text result) (second : Substitutes vars text other) :
    result = other := by
  induction first generalizing other with
  | done => exact second.eq_nil.symm
  | replaced member _ induction =>
      obtain ⟨_, rfl, behind⟩ := of_placeholder plain member second
      rw [induction behind]
  | kept noPlaceholder _ induction =>
      obtain ⟨_, rfl, behind⟩ := of_kept noPlaceholder second
      rw [induction behind]

end Substitutes

theorem Substitutes.append_front {key value : String} {front rest result : List Char}
    (noPlace : countPlaces (placeholder key).toList (front ++ rest) ≤
      countPlaces (placeholder key).toList rest)
    (substitutes : Substitutes [(key, value)] rest result) :
    Substitutes [(key, value)] (front ++ rest) (front ++ result) := by
  induction front with
  | nil => exact substitutes
  | cons c front induction =>
      have behind := @countPlaces_le_append (placeholder key).toList rest front
      rw [List.cons_append] at noPlace
      by_cases starts : (placeholder key).toList <+: c :: (front ++ rest)
      · rw [countPlaces_cons_of_present starts] at noPlace
        omega
      · rw [countPlaces_cons_of_absent starts] at noPlace
        exact .kept (by simpa [Record.keys] using starts) (induction noPlace)

theorem eq_of_add_mul {first second count other short long : Nat} (different : short ≠ long)
    (same : first + count * short = second + count * long)
    (otherSame : first + other * short = second + other * long) : count = other := by
  have product : ((count : Int) - other) * ((short : Int) - long) = 0 := by
    rw [Int.mul_sub, Int.sub_mul, Int.sub_mul]
    omega
  rcases Int.mul_eq_zero.mp product with sameCount | sameSize
  · omega
  · omega

/-! ## One more variable -/

/-- A text, what becomes of it with some variables, and what becomes of it if there is one more. -/
inductive Extends (vars : Record String) (key value : String) :
    List Char → List Char → List Char → Prop
  | done : Extends vars key value [] [] []
  | earlier {name known : String} {rest result full : List Char} (member : (name, known) ∈ vars)
      (others : Extends vars key value rest result full) :
      Extends vars key value ((placeholder name).toList ++ rest) (known.toList ++ result)
        (known.toList ++ full)
  | added {rest result full : List Char} (others : Extends vars key value rest result full) :
      Extends vars key value ((placeholder key).toList ++ rest) ((placeholder key).toList ++ result)
        (value.toList ++ full)
  | kept {c : Char} {rest result full : List Char}
      (noPlaceholder : ∀ name ∈ vars.keys ++ [key], ¬(placeholder name).toList <+: c :: rest)
      (others : Extends vars key value rest result full) :
      Extends vars key value (c :: rest) (c :: result) (c :: full)

def differences : (first second : List Char) → Nat
  | c :: first, d :: second => (if c = d then 0 else 1) + differences first second
  | _, _ => 0

section

variable {first second : List Char}

theorem differences_append (sameLength : first.length = second.length) (rest other : List Char) :
    differences (first ++ rest) (second ++ other) =
      differences first second + differences rest other := by
  induction first generalizing second with
  | nil =>
      rw [List.length_eq_zero_iff.mp sameLength.symm]
      exact (Nat.zero_add _).symm
  | cons c first induction =>
      cases second with
      | nil => cases sameLength
      | cons d second =>
          rw [List.cons_append, List.cons_append, differences, differences,
            induction (Nat.succ.inj sameLength), Nat.add_assoc]

theorem differences_self (text : List Char) : differences text text = 0 := by
  induction text with
  | nil => rfl
  | cons c rest induction => rw [differences, if_pos rfl, induction]

theorem eq_of_differences (sameLength : first.length = second.length)
    (none : differences first second = 0) : first = second := by
  induction first generalizing second with
  | nil => exact (List.length_eq_zero_iff.mp sameLength.symm).symm
  | cons c first induction =>
      cases second with
      | nil => cases sameLength
      | cons d second =>
          rw [differences, Nat.add_eq_zero_iff] at none
          have same : c = d := by
            by_contra different
            rw [if_neg different] at none
            cases none.1
          rw [same, induction (Nat.succ.inj sameLength) none.2]

end

section

variable {vars : Record String} {key value : String}

theorem keys_concat : Record.keys (vars ++ [(key, value)]) = vars.keys ++ [key] := List.map_append

theorem countPlaces_kept {c : Char} {rest : List Char}
    (noPlaceholder : ∀ name ∈ vars.keys ++ [key], ¬(placeholder name).toList <+: c :: rest) :
    countPlaces (placeholder key).toList (c :: rest) = countPlaces (placeholder key).toList rest :=
  countPlaces_cons_of_absent (noPlaceholder key (List.mem_append_right _ List.mem_cons_self))

variable (plain : ArePlain (vars ++ [(key, value)]))

include plain

theorem ArePlain.last : IsPlain key :=
  plain.plain key (keys_concat ▸ List.mem_append_right _ List.mem_cons_self)

theorem ArePlain.last_notMem : key ∉ vars.keys := by
  have distinct := plain.distinct
  rw [keys_concat] at distinct
  exact fun member => (List.nodup_append.mp distinct).2.2 key member key List.mem_cons_self rfl

theorem countPlaces_earlier {name known : String} (member : (name, known) ∈ vars)
    (rest : List Char) :
    countPlaces (placeholder key).toList ((placeholder name).toList ++ rest) =
      countPlaces (placeholder key).toList rest := by
  have isKnown : name ∈ vars.keys := List.mem_map_of_mem member
  have different : name ≠ key := fun same => plain.last_notMem (same ▸ isKnown)
  exact countPlaces_placeholder_of_ne (plain.of_append.plain name isKnown) plain.last different

theorem exists_extends {text result : List Char} (substitutes : Substitutes vars text result) :
    ∃ full, Extends vars key value text result full := by
  induction size : text.length using Nat.strong_induction_on generalizing text result with
  | _ size induction =>
    subst size
    by_cases place : ∃ name ∈ vars.keys ++ [key], (placeholder name).toList <+: text
    · obtain ⟨name, member, rest, rfl⟩ := place
      have shorter : rest.length < ((placeholder name).toList ++ rest).length := by
        rw [toList_placeholder]
        simp
        omega
      rcases List.mem_append.mp member with isEarlier | isAdded
      · obtain ⟨⟨_, known⟩, entry, rfl⟩ := List.mem_map.mp isEarlier
        obtain ⟨others, rfl, behind⟩ :=
          Substitutes.of_placeholder plain.of_append entry substitutes
        obtain ⟨full, extended⟩ := induction _ shorter behind rfl
        exact ⟨_, .earlier entry extended⟩
      · rw [List.mem_singleton] at isAdded
        subst isAdded
        obtain ⟨others, rfl, behind⟩ :=
          Substitutes.of_unknown plain.last plain.last_notMem plain.of_append substitutes
        obtain ⟨full, extended⟩ := induction _ shorter behind rfl
        exact ⟨_, .added extended⟩
    · have noPlaceholder : ∀ name ∈ vars.keys ++ [key], ¬(placeholder name).toList <+: text :=
        fun name member starts => place ⟨name, member, starts⟩
      cases text with
      | nil =>
          rw [substitutes.eq_nil]
          exact ⟨_, .done⟩
      | cons c rest =>
          obtain ⟨others, rfl, behind⟩ := Substitutes.of_kept
            (fun name member => noPlaceholder name (List.mem_append_left _ member)) substitutes
          obtain ⟨full, extended⟩ := induction _ (Nat.lt_succ_self _) behind rfl
          exact ⟨_, .kept noPlaceholder extended⟩

namespace Extends

variable {text result full : List Char} (extended : Extends vars key value text result full)

include extended

omit plain in
theorem substitutes : Substitutes (vars ++ [(key, value)]) text full := by
  induction extended with
  | done => exact .done
  | earlier member _ induction => exact .replaced (List.mem_append_left _ member) induction
  | added _ induction => exact .replaced (List.mem_append_right _ List.mem_cons_self) induction
  | kept noPlaceholder _ induction => exact .kept (keys_concat ▸ noPlaceholder) induction

theorem countPlaces_le :
    countPlaces (placeholder key).toList text ≤ countPlaces (placeholder key).toList result := by
  induction extended with
  | done => exact Nat.le_refl _
  | @earlier name known rest result full member others induction =>
      rw [countPlaces_earlier plain member]
      exact Nat.le_trans induction (countPlaces_le_append known.toList)
  | added others induction =>
      rw [countPlaces_placeholder_self plain.last, countPlaces_placeholder_self plain.last]
      exact Nat.add_le_add_right induction 1
  | @kept c rest result full noPlaceholder others induction =>
      rw [countPlaces_kept noPlaceholder]
      exact Nat.le_trans induction (countPlaces_le_append [c])

theorem substitutes_last
    (noMore : countPlaces (placeholder key).toList result ≤
      countPlaces (placeholder key).toList text) :
    Substitutes [(key, value)] result full := by
  induction extended with
  | done => exact .done
  | @earlier name known rest result full member others induction =>
      have behind := others.countPlaces_le plain
      have added := @countPlaces_le_append (placeholder key).toList result known.toList
      rw [countPlaces_earlier plain member] at noMore
      exact Substitutes.append_front (Nat.le_trans noMore behind)
        (induction (Nat.le_trans added noMore))
  | added others induction =>
      rw [countPlaces_placeholder_self plain.last, countPlaces_placeholder_self plain.last] at noMore
      exact .replaced List.mem_cons_self (induction (Nat.le_of_add_le_add_right noMore))
  | @kept c rest result full noPlaceholder others induction =>
      have behind := others.countPlaces_le plain
      have added := @countPlaces_le_append (placeholder key).toList result [c]
      rw [countPlaces_kept noPlaceholder] at noMore
      have noPlace : countPlaces (placeholder key).toList ([c] ++ result) ≤
          countPlaces (placeholder key).toList result := Nat.le_trans noMore behind
      exact Substitutes.append_front noPlace (induction (Nat.le_trans added noMore))

theorem length_eq :
    full.length + countPlaces (placeholder key).toList text * (placeholder key).toList.length =
      result.length + countPlaces (placeholder key).toList text * value.toList.length := by
  induction extended with
  | done => simp [countPlaces]
  | @earlier name known rest result full member others induction =>
      rw [countPlaces_earlier plain member, List.length_append, List.length_append]
      omega
  | added others induction =>
      rw [countPlaces_placeholder_self plain.last, List.length_append, List.length_append,
        Nat.succ_mul, Nat.succ_mul]
      omega
  | @kept c rest result full noPlaceholder others induction =>
      rw [countPlaces_kept noPlaceholder, List.length_cons, List.length_cons]
      omega

theorem differences_eq (sameLength : (placeholder key).toList.length = value.toList.length) :
    differences result full =
      countPlaces (placeholder key).toList text *
        differences (placeholder key).toList value.toList := by
  induction extended with
  | done => simp [countPlaces, differences]
  | @earlier name known rest result full member others induction =>
      rw [countPlaces_earlier plain member, differences_append rfl, differences_self, Nat.zero_add,
        induction]
  | added others induction =>
      rw [countPlaces_placeholder_self plain.last, differences_append sameLength, induction,
        Nat.succ_mul, Nat.add_comm]
  | @kept c rest result full noPlaceholder others induction =>
      rw [countPlaces_kept noPlaceholder, differences, if_pos rfl, Nat.zero_add, induction]

omit plain in
theorem full_eq (same : value = placeholder key) : full = result := by
  induction extended with
  | done => rfl
  | earlier _ _ induction => rw [induction]
  | added _ induction => rw [induction, same]
  | kept _ _ induction => rw [induction]

theorem countPlaces_eq (changes : value ≠ placeholder key) {others : Record String}
    {other : List Char} (othersPlain : ArePlain (others ++ [(key, value)]))
    (otherExtended : Extends others key value other result full) :
    countPlaces (placeholder key).toList text = countPlaces (placeholder key).toList other := by
  by_cases sameLength : (placeholder key).toList.length = value.toList.length
  · have some : differences (placeholder key).toList value.toList ≠ 0 := by
      intro none
      exact changes (String.toList_inj.mp (eq_of_differences sameLength none)).symm
    have count := extended.differences_eq plain sameLength
    rw [otherExtended.differences_eq othersPlain sameLength] at count
    exact (Nat.mul_right_cancel (Nat.pos_of_ne_zero some) count).symm
  · have length := extended.length_eq plain
    have otherLength := otherExtended.length_eq othersPlain
    exact eq_of_add_mul sameLength length otherLength

end Extends

end

/-! ## Passes -/

section

open Text (splitFrom)

theorem splitFrom_skip (separator current : List Char) (skip : Nat) (text : List Char) :
    splitFrom separator current skip text = splitFrom separator current 0 (text.drop skip) := by
  induction text generalizing skip with
  | nil => cases skip <;> rfl
  | cons c rest induction =>
      cases skip with
      | zero => rfl
      | succ skip => exact induction skip

theorem splitFrom_ne_nil (separator current : List Char) (skip : Nat) (text : List Char) :
    splitFrom separator current skip text ≠ [] := by
  induction text generalizing current skip with
  | nil => exact List.cons_ne_nil _ _
  | cons c rest induction =>
      cases skip with
      | succ skip => exact induction current skip
      | zero =>
          rw [splitFrom]
          split
          · exact List.cons_ne_nil _ _
          · exact induction _ _

theorem exists_substitutes_splitFrom (key value : String) (current text : List Char) :
    ∃ result, Substitutes [(key, value)] text result ∧
      value.toList.intercalate (splitFrom (placeholder key).toList current 0 text) =
        current.reverse ++ result := by
  induction size : text.length using Nat.strong_induction_on generalizing text current with
  | _ size induction =>
    subst size
    cases text with
    | nil => exact ⟨[], .done, by simp [splitFrom]⟩
    | cons c rest =>
        rw [splitFrom]
        split
        · next starts =>
            obtain ⟨behind, whole⟩ := List.isPrefixOf_iff_prefix.mp starts
            have positive := List.length_pos_of_ne_nil (placeholder_ne_nil key)
            have dropped : rest.drop ((placeholder key).toList.length - 1) = behind := by
              have all := congrArg (List.drop (placeholder key).toList.length) whole
              rw [List.drop_left] at all
              rw [all, ← List.drop_succ_cons, Nat.sub_add_cancel positive]
            have shorter : behind.length < (c :: rest).length := by
              rw [← whole, List.length_append]
              omega
            obtain ⟨result, substitutes, joined⟩ := induction _ shorter [] behind rfl
            refine ⟨value.toList ++ result, whole ▸ .replaced List.mem_cons_self substitutes, ?_⟩
            rw [splitFrom_skip, dropped]
            obtain ⟨piece, pieces, split⟩ :=
              List.exists_cons_of_ne_nil (splitFrom_ne_nil (placeholder key).toList [] 0 behind)
            rw [split] at joined ⊢
            rw [List.intercalate_cons_cons, joined, List.append_assoc]
            rfl
        · next starts =>
            have noPlaceholder : ∀ name ∈ Record.keys [(key, value)],
                ¬(placeholder name).toList <+: c :: rest := by
              simpa [Record.keys] using mt List.isPrefixOf_iff_prefix.mpr starts
            obtain ⟨result, substitutes, joined⟩ :=
              induction _ (Nat.lt_succ_self _) (c :: current) rest rfl
            refine ⟨c :: result, .kept noPlaceholder substitutes, ?_⟩
            rw [joined, List.reverse_cons, List.append_assoc]
            rfl

end

theorem substitutes_replace (key value text : String) :
    Substitutes [(key, value)] text.toList
      (Text.replace text (placeholder key) value).toList := by
  obtain ⟨result, substitutes, joined⟩ :=
    exists_substitutes_splitFrom key value [] text.toList
  have pass : (Text.replace text (placeholder key) value).toList = result := by
    have nonempty : (placeholder key).toList.isEmpty = false :=
      List.isEmpty_eq_false_iff.mpr (placeholder_ne_nil key)
    rw [Text.replace, Text.joinWith, String.toList_intercalate, Text.split, Text.splitChars,
      nonempty, List.map_map]
    simpa using joined
  rw [pass]
  exact substitutes

theorem render_concat (text : String) (vars : Record String) (key value : String) :
    render text (vars ++ [(key, value)]) =
      Text.replace (render text vars) (placeholder key) value := by
  rw [render, List.foldl_append]
  rfl

/-! ## Renderings -/

theorem Substitutes.refl (text : List Char) : Substitutes [] text text := by
  induction text with
  | nil => exact .done
  | cons c rest induction => exact .kept (List.forall_mem_nil _) induction

theorem ArePlain.single {key : String} (plain : IsPlain key) (value : String) :
    ArePlain [(key, value)] :=
  ⟨by simpa [Record.keys] using plain, List.nodup_singleton key⟩

theorem extends_pass {key : String} (plain : IsPlain key) (value text : String) :
    Extends [] key value text.toList text.toList
      (Text.replace text (placeholder key) value).toList := by
  have single : ArePlain ([] ++ [(key, value)]) := .single plain value
  obtain ⟨full, extended⟩ := exists_extends single (.refl text.toList)
  rw [← extended.substitutes.unique single (substitutes_replace key value text)]
  exact extended

/-- One more pass is right just if it finds its placeholder as often as the text itself has it, unless
it changes nothing at all. -/
theorem substitutes_render_concat_iff {vars : Record String} {key value text : String}
    (plain : ArePlain (vars ++ [(key, value)]))
    (substitutes : Substitutes vars text.toList (render text vars).toList) :
    Substitutes (vars ++ [(key, value)]) text.toList
        (render text (vars ++ [(key, value)])).toList ↔
      (value ≠ placeholder key → occurrences key (render text vars) = occurrences key text) := by
  obtain ⟨full, extended⟩ := exists_extends plain substitutes
  have single : ArePlain [(key, value)] := .single plain.last value
  have pass := extends_pass plain.last value (render text vars)
  rw [render_concat]
  constructor
  · intro right changes
    have same := extended.substitutes.unique plain right
    rw [same] at extended
    exact (extended.countPlaces_eq plain changes single pass).symm
  · intro found
    have same : full = (Text.replace (render text vars) (placeholder key) value).toList := by
      by_cases changes : value = placeholder key
      · rw [extended.full_eq changes, pass.full_eq changes]
      · have last := extended.substitutes_last plain (Nat.le_of_eq (found changes))
        exact last.unique single (substitutes_replace key value _)
    rw [← same]
    exact extended.substitutes

theorem substitutes_render {vars : Record String} (plain : ArePlain vars) {text : String}
    (found : ∀ before key value after, vars = before ++ (key, value) :: after →
      value ≠ placeholder key → occurrences key (render text before) = occurrences key text) :
    Substitutes vars text.toList (render text vars).toList := by
  induction vars using List.reverseRecOn with
  | nil => exact .refl text.toList
  | append_singleton vars last induction =>
      obtain ⟨key, value⟩ := last
      have before := induction plain.of_append fun before name known after cut =>
        found before name known (after ++ [(key, value)]) (by rw [cut, List.append_assoc]; rfl)
      rw [substitutes_render_concat_iff plain before]
      exact found vars key value [] rfl

theorem Substitutes.perm {vars other : Record String} (perm : vars.Perm other)
    {text result : List Char} (substitutes : Substitutes vars text result) :
    Substitutes other text result := by
  induction substitutes with
  | done => exact .done
  | replaced member _ induction => exact .replaced (perm.mem_iff.mp member) induction
  | kept noPlaceholder _ induction =>
      exact .kept (fun key member => noPlaceholder key ((perm.map Prod.fst).mem_iff.mpr member))
        induction

theorem exists_substitutes {vars : Record String} (plain : ArePlain vars) (text : List Char) :
    ∃ result, Substitutes vars text result := by
  induction vars using List.reverseRecOn with
  | nil => exact ⟨text, .refl text⟩
  | append_singleton vars last induction =>
      obtain ⟨key, value⟩ := last
      obtain ⟨result, substitutes⟩ := induction plain.of_append
      obtain ⟨full, extended⟩ := exists_extends plain substitutes
      exact ⟨full, extended.substitutes⟩

/-- A text has one result of a scan in which all placeholders are replaced at once, and the order of
the variables does not matter for it. A rendering is made pass by pass. What there is after each pass
is this result for the variables so far just if every pass finds its placeholder as often as the text
itself has it, be it that the variable stands for its own placeholder and so changes nothing. -/
theorem render_simultaneous {vars : Record String} (plain : ArePlain vars) (text : String) :
    (∃! result, Substitutes vars text.toList result) ∧
    (∀ other, vars.Perm other → ∀ result,
      Substitutes vars text.toList result ↔ Substitutes other text.toList result) ∧
    ((∀ before, before <+: vars → Substitutes before text.toList (render text before).toList) ↔
      ∀ before key value after, vars = before ++ (key, value) :: after →
        value ≠ placeholder key →
        occurrences key (render text before) = occurrences key text) := by
  refine ⟨?_, fun other perm result => ⟨.perm perm, .perm perm.symm⟩, ?_, ?_⟩
  · obtain ⟨result, substitutes⟩ := exists_substitutes plain text.toList
    exact ⟨result, substitutes, fun other same => same.unique plain substitutes⟩
  · intro right before key value after cut
    rw [List.append_cons] at cut
    rw [cut] at plain
    have first := right before ⟨(key, value) :: after, by rw [cut, ← List.append_cons]⟩
    exact (substitutes_render_concat_iff plain.of_append first).mp (right _ ⟨after, cut.symm⟩)
  · rintro found before ⟨after, rfl⟩
    refine substitutes_render plain.of_append fun first key value rest cut => ?_
    exact found first key value (rest ++ after) (by rw [cut, List.append_assoc]; rfl)

theorem render_simultaneous_of_path :
    let vars := [("ext", ".json"), ("file", "\x7b\x7bdata/a.json")]
    let text := "cat \x7b\x7bfile\x7d\x7d \x7b\x7bother\x7d\x7d"
    ArePlain vars ∧
    (∀ before key value after, vars = before ++ (key, value) :: after → value ≠ placeholder key →
      occurrences key (render text before) = occurrences key text) ∧
    Substitutes vars text.toList "cat \x7b\x7bdata/a.json \x7b\x7bother\x7d\x7d".toList := by
  intro vars text
  have plain : ArePlain vars := ⟨by decide, by decide⟩
  have found : ∀ before key value after, vars = before ++ (key, value) :: after →
      value ≠ placeholder key → occurrences key (render text before) = occurrences key text := by
    intro before key value after cut _
    match before with
    | [] =>
        simp only [vars, List.nil_append, List.cons.injEq, Prod.mk.injEq] at cut
        obtain ⟨⟨rfl, rfl⟩, rfl⟩ := cut
        decide
    | [_] =>
        simp only [vars, List.cons_append, List.nil_append, List.cons.injEq, Prod.mk.injEq] at cut
        obtain ⟨rfl, ⟨rfl, rfl⟩, rfl⟩ := cut
        decide
    | _ :: _ :: before => simp [vars] at cut
  have result : render text vars = "cat \x7b\x7bdata/a.json \x7b\x7bother\x7d\x7d" := by decide
  have right := (render_simultaneous plain text).2.2.mpr found vars List.prefix_rfl
  rw [result] at right
  exact ⟨plain, found, right⟩

/-- A value that looks like a placeholder is replaced in turn, and a value that stands between braces
becomes one. -/
theorem render_simultaneous_exceptions :
    (let vars := [("file", "\x7b\x7bfilename\x7d\x7d/b.txt"), ("filename", "b.txt")]
     let text := "\x7b\x7bfile\x7d\x7d"
     ArePlain vars ∧ Substitutes vars text.toList "\x7b\x7bfilename\x7d\x7d/b.txt".toList ∧
      render text vars = "b.txt/b.txt" ∧
      ¬Substitutes vars text.toList (render text vars).toList) ∧
    (let vars := [("a", "b"), ("b", "x")]
     let text := "\x7b\x7b\x7b\x7ba\x7d\x7d\x7d\x7d"
     ArePlain vars ∧ Substitutes vars text.toList "\x7b\x7bb\x7d\x7d".toList ∧
      render text vars = "x" ∧ ¬Substitutes vars text.toList (render text vars).toList) := by
  constructor
  · intro vars text
    have plain : ArePlain vars := ⟨by decide, by decide⟩
    have whole : text.toList = (placeholder "file").toList ++ [] := by decide
    have substitutes : Substitutes vars text.toList "\x7b\x7bfilename\x7d\x7d/b.txt".toList := by
      rw [whole, ← List.append_nil ("\x7b\x7bfilename\x7d\x7d/b.txt".toList)]
      exact .replaced List.mem_cons_self .done
    have rendered : render text vars = "b.txt/b.txt" := by decide
    refine ⟨plain, substitutes, rendered, fun other => ?_⟩
    have same := substitutes.unique plain other
    rw [rendered] at same
    revert same
    decide
  · intro vars text
    have plain : ArePlain vars := ⟨by decide, by decide⟩
    have closing : Substitutes vars ['\x7d', '\x7d'] ['\x7d', '\x7d'] :=
      .kept (by decide) (.kept (by decide) .done)
    have inside : Substitutes vars ((placeholder "a").toList ++ ['\x7d', '\x7d'])
        ("b".toList ++ ['\x7d', '\x7d']) := .replaced List.mem_cons_self closing
    have whole : text.toList =
        '\x7b' :: '\x7b' :: ((placeholder "a").toList ++ ['\x7d', '\x7d']) := by decide
    have result : "\x7b\x7bb\x7d\x7d".toList =
        '\x7b' :: '\x7b' :: ("b".toList ++ ['\x7d', '\x7d']) := by decide
    have substitutes : Substitutes vars text.toList "\x7b\x7bb\x7d\x7d".toList := by
      rw [whole, result]
      exact .kept (by decide) (.kept (by decide) inside)
    have rendered : render text vars = "x" := by decide
    refine ⟨plain, substitutes, rendered, fun other => ?_⟩
    have same := substitutes.unique plain other
    rw [rendered] at same
    revert same
    decide

end LiterateTest.Template
