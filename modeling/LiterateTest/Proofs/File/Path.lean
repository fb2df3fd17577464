import LiterateTest.File.Path
import LiterateTest.Proofs.Text
import LiterateTest.Proofs.Text.Split

/-! What paths say: their parts, joined paths, and paths from a directory on. -/

namespace LiterateTest.Path

open Text

theorem toList_slash : "/".toList = ['/'] := rfl

/-! ## Parts -/

/-- The parts of a path without a `.` at the start. -/
def plainParts (path : String) : List PathPart := (parts path).filter (· ≠ .here)

/-- Whether two paths lead the same way, where a `.` at the start makes no difference. -/
def SamePath (left right : String) : Prop := plainParts left = plainParts right

instance (left right : String) : Decidable (SamePath left right) :=
  inferInstanceAs (Decidable (plainParts left = plainParts right))

def plainPieces (text : String) : List PathPart := (split text "/").filterMap (part? false)

theorem filterMap_part? (first : Bool) (pieces : List String) :
    (partsFrom first pieces).filter (· ≠ .here) = pieces.filterMap (part? false) := by
  induction pieces generalizing first with
  | nil => rfl
  | cons piece rest induction =>
      have own : (part? first piece).toList.filter (· ≠ .here) = (part? false piece).toList := by
        rw [part?, part?]
        repeat' split
        all_goals simp_all
      rw [partsFrom, List.filter_append, induction, own, List.filterMap_cons]
      cases part? false piece <;> rfl

theorem isAbsolute_iff {path : String} : isAbsolute path = true ↔ ∃ rest, path = "/" ++ rest := by
  rw [isAbsolute, startsWith, List.isPrefixOf_iff_prefix, toList_slash]
  constructor
  · rintro ⟨rest, same⟩
    refine ⟨String.ofList rest, ?_⟩
    rw [← String.toList_inj, ← same, String.toList_append, toList_slash, String.toList_ofList]
  · rintro ⟨rest, rfl⟩
    exact ⟨rest.toList, by rw [String.toList_append, toList_slash]⟩

theorem isAbsolute_slash (rest : String) : isAbsolute ("/" ++ rest) = true :=
  isAbsolute_iff.mpr ⟨rest, rfl⟩

theorem dropLead?_of_relative {path : String} (relative : isAbsolute path = false) :
    dropLead? path "/" = none := by
  rw [isAbsolute, startsWith, toList_slash] at relative
  rw [dropLead?, toList_slash]
  cases chars : path.toList with
  | nil => rfl
  | cons c rest =>
      rw [chars] at relative
      have other : '/' ≠ c := by
        rintro rfl
        simp at relative
      simp [stripLead?, other]

theorem dropLead?_slash (rest : String) : dropLead? ("/" ++ rest) "/" = some rest := by
  rw [dropLead?, String.toList_append, toList_slash]
  simp [stripLead?]

theorem pieces_of_relative {path : String} (relative : isAbsolute path = false) :
    pieces path = split path "/" := by
  rw [pieces, dropLead?_of_relative relative]
  rfl

theorem pieces_slash (rest : String) : pieces ("/" ++ rest) = split rest "/" := by
  rw [pieces, dropLead?_slash]
  rfl

theorem split_slash (rest : String) : split ("/" ++ rest) "/" = "" :: split rest "/" := by
  have empty := split_append toList_slash "" rest
  rw [String.empty_append] at empty
  exact empty

theorem pieces_ne_nil (path : String) : pieces path ≠ [] := split_ne_nil toList_slash _

def rootOf (path : String) : List PathPart := if isAbsolute path then [.root] else []

theorem filterMap_pieces (path : String) :
    (pieces path).filterMap (part? false) = plainPieces path := by
  cases absolute : isAbsolute path with
  | false => rw [pieces_of_relative absolute, plainPieces]
  | true =>
      rcases isAbsolute_iff.mp absolute with ⟨rest, rfl⟩
      rw [pieces_slash, plainPieces, split_slash, List.filterMap_cons_none rfl]

theorem plainParts_eq (path : String) : plainParts path = rootOf path ++ plainPieces path := by
  rw [plainParts, parts, rootOf]
  cases isAbsolute path with
  | false =>
      rw [if_neg Bool.false_ne_true, if_neg Bool.false_ne_true, filterMap_part?, filterMap_pieces,
        List.nil_append]
  | true =>
      rw [if_pos rfl, if_pos rfl, List.filter_cons_of_pos (by decide), filterMap_part?,
        filterMap_pieces, List.singleton_append]

theorem plainPieces_slash (rest : String) : plainPieces ("/" ++ rest) = plainPieces rest := by
  rw [plainPieces, split_slash, List.filterMap_cons_none rfl, plainPieces]

theorem plainParts_of_relative {path : String} (relative : isAbsolute path = false) :
    plainParts path = plainPieces path := by
  rw [plainParts_eq, rootOf, relative, if_neg Bool.false_ne_true, List.nil_append]

/-! ## Single pieces -/

theorem isAbsolute_of_not_mem {piece : String} (apart : '/' ∉ piece.toList) :
    isAbsolute piece = false := by
  rw [Bool.eq_false_iff]
  intro absolute
  rcases isAbsolute_iff.mp absolute with ⟨rest, rfl⟩
  rw [String.toList_append] at apart
  exact apart (List.mem_append_left _ List.mem_cons_self)

theorem pieces_of_not_mem {piece : String} (apart : '/' ∉ piece.toList) : pieces piece = [piece] := by
  rw [pieces_of_relative (isAbsolute_of_not_mem apart), split_of_not_mem toList_slash apart]

theorem plainParts_of_not_mem {piece : String} (apart : '/' ∉ piece.toList) :
    plainParts piece = (part? false piece).toList := by
  rw [plainParts_of_relative (isAbsolute_of_not_mem apart), ← filterMap_pieces,
    pieces_of_not_mem apart, List.filterMap_cons]
  cases part? false piece <;> rfl

/-! ## Joined paths -/

theorem plainPieces_append (front rest : String) :
    plainPieces (front ++ "/" ++ rest) = plainPieces front ++ plainPieces rest := by
  rw [plainPieces, split_append toList_slash, List.filterMap_append]
  rfl

theorem plainPieces_empty : plainPieces "" = [] := by decide

theorem endsWith_slash_iff {path : String} :
    endsWith path "/" = true ↔ ∃ front, path = front ++ "/" := by
  rw [endsWith, List.isSuffixOf_iff_suffix, toList_slash]
  constructor
  · rintro ⟨front, same⟩
    refine ⟨String.ofList front, ?_⟩
    rw [← String.toList_inj, ← same, String.toList_append, String.toList_ofList, toList_slash]
  · rintro ⟨front, rfl⟩
    exact ⟨front.toList, by rw [String.toList_append, toList_slash]⟩

theorem join_cases {path : String} (relative : isAbsolute path = false) (base : String) :
    (base = "" ∧ join base path = path) ∨
      (∃ front, base = front ++ "/" ∧ join base path = front ++ "/" ++ path) ∨
      (base ≠ "" ∧ endsWith base "/" = false ∧ join base path = base ++ "/" ++ path) := by
  by_cases empty : base = ""
  · exact .inl ⟨empty, by simp [join, relative, empty]⟩
  · cases ends : endsWith base "/" with
    | true =>
        rcases endsWith_slash_iff.mp ends with ⟨front, same⟩
        refine .inr (.inl ⟨front, same, ?_⟩)
        rw [join, relative, ends, ← same]
        simp
    | false => exact .inr (.inr ⟨empty, rfl, by simp [join, relative, empty, ends]⟩)

theorem isAbsolute_append {front rest : String} (nonempty : front ≠ "") :
    isAbsolute (front ++ rest) = isAbsolute front := by
  have chars : front.toList ≠ [] := fun none => nonempty (String.toList_eq_nil_iff.mp none)
  rcases List.exists_cons_of_ne_nil chars with ⟨c, others, same⟩
  rw [isAbsolute, isAbsolute, startsWith, startsWith, String.toList_append, same, toList_slash]
  rfl

theorem append_slash_ne_empty (front rest : String) : front ++ "/" ++ rest ≠ "" := by
  intro empty
  have chars := congrArg String.toList empty
  rw [String.toList_append, String.toList_append, toList_slash] at chars
  simp at chars

theorem isAbsolute_join {path : String} (relative : isAbsolute path = false) (base : String) :
    isAbsolute (join base path) = isAbsolute base := by
  rcases join_cases relative base with ⟨rfl, joined⟩ | ⟨front, rfl, joined⟩ | ⟨named, -, joined⟩
  · rw [joined, relative]
    rfl
  · have named := append_slash_ne_empty front ""
    rw [String.append_empty] at named
    rw [joined, isAbsolute_append named]
  · rw [joined, String.append_assoc, isAbsolute_append named]

theorem plainParts_join {path : String} (relative : isAbsolute path = false) (base : String) :
    plainParts (join base path) = plainParts base ++ plainParts path := by
  rw [plainParts_eq, plainParts_eq, plainParts_of_relative relative, rootOf, rootOf,
    isAbsolute_join relative, List.append_assoc]
  congr 1
  rcases join_cases relative base with ⟨rfl, joined⟩ | ⟨front, rfl, joined⟩ | ⟨-, -, joined⟩
  · rw [joined, plainPieces_empty, List.nil_append]
  · have own := plainPieces_append front ""
    rw [String.append_empty, plainPieces_empty, List.append_nil] at own
    rw [joined, plainPieces_append, own]
  · rw [joined, plainPieces_append]

/-- The pieces of a path in front of what is joined to it. -/
def lead (base : String) : List String :=
  if base = "" then []
  else if endsWith base "/" then (pieces base).dropLast
  else pieces base

theorem pieces_append {front : String} (named : front ≠ "") (rest : String) :
    pieces (front ++ "/" ++ rest) = pieces front ++ split rest "/" := by
  cases absolute : isAbsolute front with
  | false =>
      have relative : isAbsolute (front ++ "/" ++ rest) = false := by
        rw [String.append_assoc, isAbsolute_append named, absolute]
      rw [pieces_of_relative relative, pieces_of_relative absolute, split_append toList_slash]
  | true =>
      rcases isAbsolute_iff.mp absolute with ⟨inner, rfl⟩
      rw [String.append_assoc, String.append_assoc, pieces_slash, pieces_slash,
        ← String.append_assoc, split_append toList_slash]

theorem pieces_slash_end (front : String) : pieces (front ++ "/") = lead (front ++ "/") ++ [""] := by
  have named := append_slash_ne_empty front ""
  have ends : endsWith (front ++ "/") "/" = true := endsWith_slash_iff.mpr ⟨front, rfl⟩
  rw [String.append_empty] at named
  rw [lead, if_neg named, if_pos ends]
  by_cases empty : front = ""
  · rw [empty]
    rfl
  · have own := pieces_append empty ""
    rw [String.append_empty] at own
    change _ = pieces front ++ [""] at own
    rw [own, List.dropLast_concat]

theorem pieces_eq_lead {base : String} (named : base ≠ "") :
    pieces base = lead base ∨ pieces base = lead base ++ [""] := by
  cases ends : endsWith base "/" with
  | false => exact .inl (by rw [lead, if_neg named, ends, if_neg Bool.false_ne_true])
  | true =>
      rcases endsWith_slash_iff.mp ends with ⟨front, rfl⟩
      exact .inr (pieces_slash_end front)

theorem mem_pieces_of_mem_lead {base piece : String} (member : piece ∈ lead base) :
    piece ∈ pieces base := by
  by_cases empty : base = ""
  · rw [lead, if_pos empty] at member
    cases member
  · rcases pieces_eq_lead empty with same | same
    · rwa [same]
    · rw [same]
      exact List.mem_append_left _ member

theorem pieces_join {path : String} (relative : isAbsolute path = false) (base : String) :
    pieces (join base path) = lead base ++ split path "/" := by
  rcases join_cases relative base with ⟨rfl, joined⟩ | ⟨front, rfl, joined⟩ | ⟨named, ends, joined⟩
  · rw [joined, pieces_of_relative relative]
    rfl
  · rw [joined]
    by_cases empty : front = ""
    · rw [empty, String.empty_append, pieces_slash]
      rfl
    · have own := pieces_append empty ""
      rw [String.append_empty, pieces_slash_end] at own
      rw [pieces_append empty, List.append_cancel_right own]
  · rw [joined, pieces_append named, lead, if_neg named, ends, if_neg Bool.false_ne_true]

/-! ## Characters of names -/

theorem text_of_part? {piece : String} {part : PathPart} (found : part? false piece = some part) :
    part.text = piece := by
  rw [part?] at found
  repeat' split at found
  all_goals cases found <;> simp_all [PathPart.text]

theorem part?_eq_none_iff {piece : String} : part? false piece = none ↔ piece = "" ∨ piece = "." := by
  rw [part?]
  repeat' split
  all_goals simp_all

theorem mem_of_mem_split {path piece : String} (member : piece ∈ split path "/") {c : Char}
    (inside : c ∈ piece.toList) : c ∈ path.toList := by
  have contained := infix_joinWith "/" member
  rw [joinWith_split toList_slash] at contained
  exact contained.subset inside

theorem mem_of_mem_pieces {path piece : String} (member : piece ∈ pieces path) {c : Char}
    (inside : c ∈ piece.toList) : c ∈ path.toList := by
  refine mem_of_mem_split ?_ inside
  cases absolute : isAbsolute path with
  | false => rwa [pieces_of_relative absolute] at member
  | true =>
      rcases isAbsolute_iff.mp absolute with ⟨rest, rfl⟩
      rw [pieces_slash] at member
      rw [split_slash]
      exact List.mem_cons_of_mem _ member

theorem mem_of_mem_plainPieces {text : String} {part : PathPart} {c : Char}
    (member : part ∈ plainPieces text) (inside : c ∈ part.text.toList) : c ∈ text.toList := by
  rcases List.mem_filterMap.mp member with ⟨piece, isPiece, isPart⟩
  rw [text_of_part? isPart] at inside
  exact mem_of_mem_split isPiece inside

theorem exists_part_of_mem {text : String} {c : Char} (member : c ∈ text.toList) (noSlash : c ≠ '/')
    (noDot : c ≠ '.') : ∃ part ∈ plainPieces text, c ∈ part.text.toList := by
  rcases exists_mem_split toList_slash member noSlash with ⟨piece, isPiece, inside⟩
  cases isPart : part? false piece with
  | none =>
      rcases part?_eq_none_iff.mp isPart with rfl | rfl
      · cases inside
      · exact absurd (List.mem_singleton.mp inside) noDot
  | some part =>
      refine ⟨part, List.mem_filterMap.mpr ⟨piece, isPiece, isPart⟩, ?_⟩
      rwa [text_of_part? isPart]

/-! ## Paths from a directory on -/

theorem partsFrom_false (pieces : List String) :
    partsFrom false pieces = pieces.filterMap (part? false) := by
  induction pieces with
  | nil => rfl
  | cons piece rest induction =>
      rw [partsFrom, induction, List.filterMap_cons]
      cases part? false piece <;> rfl

theorem prefix_trimEnd (first : Bool) (pieces : List String) : trimEnd first pieces <+: pieces := by
  induction pieces generalizing first with
  | nil => exact List.prefix_rfl
  | cons piece rest induction =>
      have inner := induction false
      rw [trimEnd.eq_def]
      dsimp only
      split
      · split
        · exact ⟨rest, rfl⟩
        · exact List.nil_prefix
      · next kept other =>
          exact (List.prefix_cons_inj piece).mpr inner

theorem partsFrom_trimEnd (first : Bool) (pieces : List String) :
    partsFrom first (trimEnd first pieces) = partsFrom first pieces := by
  induction pieces generalizing first with
  | nil => rfl
  | cons piece rest induction =>
      have inner := induction false
      rw [trimEnd.eq_def]
      dsimp only
      split
      · next none =>
          rw [none] at inner
          rw [partsFrom, ← inner]
          split
          · rfl
          · next nothing =>
              rw [Option.not_isSome_iff_eq_none.mp nothing]
              rfl
      · next kept other => rw [partsFrom, partsFrom, inner]

def StartsWithPart (pieces : List String) : Prop :=
  ∀ piece ∈ pieces.head?, part? false piece ≠ none

theorem startsWithPart_dropWhile (pieces : List String) :
    StartsWithPart (pieces.dropWhile fun piece => (part? false piece).isNone) := by
  intro piece first nothing
  have holds := List.head?_dropWhile_not (fun piece => (part? false piece).isNone) pieces
  rw [Option.mem_def.mp first] at holds
  simp [nothing] at holds

theorem filterMap_dropWhile (pieces : List String) :
    (pieces.dropWhile fun piece => (part? false piece).isNone).filterMap (part? false) =
      pieces.filterMap (part? false) := by
  induction pieces with
  | nil => rfl
  | cons piece rest induction =>
      rw [List.dropWhile_cons]
      split
      · next nothing =>
          rw [induction, List.filterMap_cons_none (Option.isNone_iff_eq_none.mp nothing)]
      · rfl

theorem of_dropParts? {first : Bool} {wanted : List PathPart} {pieces rest : List String}
    (found : dropParts? first wanted pieces = some rest) :
    partsFrom first pieces = wanted ++ partsFrom (first && wanted.isEmpty) rest ∧
      rest <:+ pieces ∧ ((first && wanted.isEmpty) = false → StartsWithPart rest) := by
  fun_induction dropParts? first wanted pieces with
  | case1 pieces =>
      cases found
      refine ⟨rfl, List.suffix_rfl, ?_⟩
      rintro ⟨⟩
  | case2 pieces =>
      cases found
      refine ⟨?_, List.dropWhile_suffix _, fun _ => startsWithPart_dropWhile pieces⟩
      simp only [Bool.false_and, List.nil_append, partsFrom_false, filterMap_dropWhile]
  | case3 => cases found
  | case4 first wanted others piece rest nothing induction =>
      rcases induction found with ⟨split, suffix, starts⟩
      refine ⟨?_, suffix.trans (List.suffix_cons _ _), fun _ => starts (by simp)⟩
      rw [partsFrom, nothing, Option.toList_none, List.nil_append, split]
      simp
  | case5 first others piece rest part isPart induction =>
      rcases induction found with ⟨split, suffix, starts⟩
      refine ⟨?_, suffix.trans (List.suffix_cons _ _), fun _ => starts (by simp)⟩
      rw [partsFrom, isPart, Option.toList_some, List.singleton_append, split]
      simp
  | case6 => cases found

theorem not_prefix_of_dropParts? {first : Bool} {wanted : List PathPart} {pieces : List String}
    (none : dropParts? first wanted pieces = none) : ¬wanted <+: partsFrom first pieces := by
  fun_induction dropParts? first wanted pieces with
  | case1 => cases none
  | case2 => cases none
  | case3 first wanted others => simp [partsFrom]
  | case4 first wanted others piece rest nothing induction =>
      rw [partsFrom, nothing, Option.toList_none, List.nil_append]
      exact induction none
  | case5 first others piece rest part isPart induction =>
      rw [partsFrom, isPart, Option.toList_some, List.singleton_append, List.prefix_cons_inj]
      exact induction none
  | case6 first wanted others piece rest part isPart different =>
      rw [partsFrom, isPart, Option.toList_some, List.singleton_append, List.cons_prefix_cons]
      exact fun both => different both.1.symm

theorem parts_of_absolute {path : String} (absolute : isAbsolute path = true) :
    parts path = plainParts path := by
  rw [plainParts_eq, rootOf, if_pos absolute, parts, if_pos absolute, partsFrom_false,
    filterMap_pieces]
  rfl

theorem isAbsolute_of_root {path : String} {others : List PathPart}
    (root : plainParts path = .root :: others) : isAbsolute path = true := by
  by_contra relative
  rw [plainParts_of_relative (Bool.eq_false_iff.mpr relative)] at root
  have member : PathPart.root ∈ plainPieces path := by
    rw [root]
    exact List.mem_cons_self
  rcases List.mem_filterMap.mp member with ⟨piece, -, isRoot⟩
  rw [part?] at isRoot
  repeat' split at isRoot
  all_goals cases isRoot

/-! ## Pieces put together -/

theorem not_mem_of_mem_pieces {path piece : String} (member : piece ∈ pieces path) :
    '/' ∉ piece.toList :=
  not_mem_of_mem_split toList_slash member

theorem plainPieces_joinWith {pieces : List String} (apart : ∀ piece ∈ pieces, '/' ∉ piece.toList) :
    plainPieces (joinWith "/" pieces) = pieces.filterMap (part? false) := by
  by_cases empty : pieces = []
  · rw [empty]
    exact plainPieces_empty
  · rw [plainPieces, split_joinWith toList_slash apart empty]

theorem isAbsolute_joinWith {pieces : List String} (apart : ∀ piece ∈ pieces, '/' ∉ piece.toList)
    (nonempty : ∀ piece ∈ pieces.head?, piece ≠ "") : isAbsolute (joinWith "/" pieces) = false := by
  rw [Bool.eq_false_iff]
  intro absolute
  rcases isAbsolute_iff.mp absolute with ⟨rest, same⟩
  cases pieces with
  | nil =>
      have chars := congrArg String.toList same
      rw [String.toList_append, toList_slash] at chars
      cases chars
  | cons piece others =>
      have split := split_joinWith toList_slash apart (List.cons_ne_nil piece others)
      rw [same, split_slash] at split
      cases split
      exact nonempty "" rfl rfl

theorem nonempty_of_startsWithPart {pieces : List String} (starts : StartsWithPart pieces) :
    ∀ piece ∈ pieces.head?, piece ≠ "" := by
  rintro piece first rfl
  exact starts "" first rfl

theorem plainParts_joinWith {pieces : List String} (apart : ∀ piece ∈ pieces, '/' ∉ piece.toList)
    (nonempty : ∀ piece ∈ pieces.head?, piece ≠ "") :
    plainParts (joinWith "/" pieces) = pieces.filterMap (part? false) := by
  rw [plainParts_of_relative (isAbsolute_joinWith apart nonempty), plainPieces_joinWith apart]

theorem filterMap_trimEnd (first : Bool) (pieces : List String) :
    (trimEnd first pieces).filterMap (part? false) = pieces.filterMap (part? false) := by
  rw [← filterMap_part? first, partsFrom_trimEnd, filterMap_part?]

theorem head?_trimEnd {first : Bool} {pieces : List String} {holds : String → Prop}
    (all : ∀ piece ∈ pieces.head?, holds piece) :
    ∀ piece ∈ (trimEnd first pieces).head?, holds piece := by
  intro piece isFirst
  rcases prefix_trimEnd first pieces with ⟨rest, whole⟩
  apply all
  rw [← whole, List.head?_append, Option.mem_def.mp isFirst]
  rfl

theorem plainParts_ofPieces_trimEnd {first : Bool} {path : String} {rest : List String}
    (suffix : rest <:+ pieces path) (nonempty : ∀ piece ∈ (trimEnd first rest).head?, piece ≠ "") :
    isAbsolute (ofPieces false (trimEnd first rest)) = false ∧
      plainParts (ofPieces false (trimEnd first rest)) = rest.filterMap (part? false) := by
  have apart : ∀ piece ∈ trimEnd first rest, '/' ∉ piece.toList := fun piece member =>
    not_mem_of_mem_pieces (suffix.subset ((prefix_trimEnd first rest).subset member))
  rw [ofPieces, if_neg Bool.false_ne_true, String.empty_append]
  refine ⟨isAbsolute_joinWith apart nonempty, ?_⟩
  rw [plainParts_joinWith apart nonempty, filterMap_trimEnd]

theorem head?_pieces_of_relative {path : String} (relative : isAbsolute path = false)
    (named : path ≠ "") : ∀ piece ∈ (pieces path).head?, piece ≠ "" := by
  rintro piece first rfl
  rw [pieces_of_relative relative, split_eq toList_slash] at first
  cases chars : path.toList with
  | nil => exact named (String.toList_eq_nil_iff.mp chars)
  | cons c rest =>
      have noSlash : c ≠ '/' := by
        rintro rfl
        rw [isAbsolute, startsWith, chars, toList_slash] at relative
        simp at relative
      rcases List.exists_cons_of_ne_nil (List.splitOn_ne_nil '/' rest) with ⟨front, others, pieces⟩
      rw [chars, splitOn_cons, if_neg noSlash, pieces, List.modifyHead_cons, List.map_cons] at first
      have same : String.ofList (c :: front) = "" := Option.some_inj.mp first
      have none := congrArg String.toList same
      rw [String.toList_ofList] at none
      cases none

/-! ## Relative paths -/

theorem part?_true_eq_none {piece : String} (nothing : part? true piece = none) : piece = "" := by
  rw [part?] at nothing
  repeat' split at nothing
  all_goals simp_all

theorem eq_empty_of_parts {base : String} (none : parts base = []) : base = "" := by
  by_contra named
  rw [parts] at none
  split at none
  · cases none
  · next relative =>
      have starts := head?_pieces_of_relative (Bool.eq_false_iff.mpr relative) named
      rcases List.exists_cons_of_ne_nil (pieces_ne_nil base) with ⟨piece, rest, same⟩
      rw [same, partsFrom, List.append_eq_nil_iff, Option.toList_eq_nil_iff] at none
      rw [same] at starts
      exact starts piece rfl (part?_true_eq_none none.1)

theorem parts_cases (path : String) :
    parts path = plainParts path ∨ parts path = .here :: plainParts path := by
  cases absolute : isAbsolute path with
  | true => exact .inl (parts_of_absolute absolute)
  | false =>
      have relative : ¬isAbsolute path = true := by rw [absolute]; exact Bool.false_ne_true
      rcases List.exists_cons_of_ne_nil (pieces_ne_nil path) with ⟨piece, rest, same⟩
      rw [plainParts_of_relative absolute, ← filterMap_pieces, parts, if_neg relative, same,
        partsFrom, partsFrom_false, List.filterMap_cons, part?, part?]
      by_cases empty : piece = ""
      · simp [empty]
      · by_cases dot : piece = "."
        · simp [dot]
        · by_cases dots : piece = ".." <;> simp [empty, dot, dots]

theorem parts_eq_here_iff {path : String} (named : path ≠ "") :
    parts path = [.here] ↔ plainParts path = [] := by
  constructor
  · intro here
    rw [plainParts, here]
    rfl
  · intro nothing
    rcases parts_cases path with same | same
    · rw [nothing] at same
      exact absurd (eq_empty_of_parts same) named
    · rw [same, nothing]

theorem relativeTo?_cases {base path relative : String}
    (found : relativeTo? base path = some relative) :
    (base = "" ∧ isAbsolute path = true ∧
        relative = "/" ++ joinWith "/" (trimEnd false (pieces path))) ∨
      ∃ first trim rest, parts path = parts base ++ partsFrom first rest ∧ rest <:+ pieces path ∧
        relative = ofPieces false (trimEnd trim rest) ∧
        ∀ piece ∈ (trimEnd trim rest).head?, piece ≠ "" := by
  rw [relativeTo?] at found
  split at found
  · next absolute =>
      split at found
      · next none =>
          cases found
          exact .inl ⟨eq_empty_of_parts none, absolute, rfl⟩
      · next others isBase =>
          rcases Option.map_eq_some_iff.mp found with ⟨rest, dropped, rfl⟩
          rcases of_dropParts? dropped with ⟨split, suffix, starts⟩
          refine .inr ⟨false, false, rest, ?_, suffix, rfl,
            head?_trimEnd (nonempty_of_startsWithPart (starts rfl))⟩
          rw [parts, if_pos absolute, split, isBase]
          rfl
      · cases found
  · next isRelative =>
      rcases Option.map_eq_some_iff.mp found with ⟨rest, dropped, rfl⟩
      rcases of_dropParts? dropped with ⟨split, suffix, starts⟩
      refine .inr ⟨true && (parts base).isEmpty, (parts base).isEmpty, rest, ?_, suffix, rfl, ?_⟩
      · rw [← split, parts, if_neg isRelative]
      · cases isBase : parts base with
        | cons part others =>
            rw [isBase] at starts
            exact head?_trimEnd (nonempty_of_startsWithPart (starts rfl))
        | nil =>
            rw [isBase, dropParts?, Option.some_inj] at dropped
            rw [← dropped]
            by_cases named : path = ""
            · rw [named]
              rintro piece ⟨⟩
            · exact head?_trimEnd
                (head?_pieces_of_relative (Bool.eq_false_iff.mpr isRelative) named)

theorem plainParts_of_relativeTo? {base path relative : String}
    (found : relativeTo? base path = some relative) :
    plainParts path = plainParts base ++ plainParts relative ∧
      (isAbsolute relative = true → base = "") := by
  rcases relativeTo?_cases found with ⟨rfl, absolute, rfl⟩ |
    ⟨first, trim, rest, divided, suffix, rfl, nonempty⟩
  · have apart : ∀ piece ∈ trimEnd false (pieces path), '/' ∉ piece.toList :=
      fun piece member => not_mem_of_mem_pieces ((prefix_trimEnd false _).subset member)
    refine ⟨?_, fun _ => rfl⟩
    rw [plainParts_eq path, plainParts_eq ("/" ++ _), rootOf, if_pos absolute, rootOf,
      if_pos (isAbsolute_slash _), plainPieces_slash, plainPieces_joinWith apart, filterMap_trimEnd,
      filterMap_pieces]
    rfl
  · have plain := plainParts_ofPieces_trimEnd suffix nonempty
    refine ⟨?_, fun wrong => ?_⟩
    · rw [plain.2, plainParts, divided, List.filter_append, filterMap_part?]
      rfl
    · rw [plain.1] at wrong
      cases wrong

theorem relativeTo?_isSome_iff {base path : String} :
    (relativeTo? base path).isSome = true ↔ parts base <+: parts path := by
  constructor
  · intro found
    rcases Option.isSome_iff_exists.mp found with ⟨relative, isRelative⟩
    rcases relativeTo?_cases isRelative with ⟨rfl, -, -⟩ | ⟨first, -, rest, divided, -, -, -⟩
    · exact List.nil_prefix
    · rw [divided]
      exact List.prefix_append _ _
  · intro starts
    by_contra none
    rw [Option.not_isSome_iff_eq_none] at none
    rw [relativeTo?] at none
    split at none
    · next absolute =>
        rw [parts.eq_def path, if_pos absolute] at starts
        split at none
        · cases none
        · next others isBase =>
            rw [isBase, List.prefix_cons_inj] at starts
            exact not_prefix_of_dropParts? (Option.map_eq_none_iff.mp none) starts
        · next noBase otherBase =>
            cases isBase : parts base with
            | nil => exact noBase isBase
            | cons part others =>
                rw [isBase, List.cons_prefix_cons] at starts
                rw [starts.1] at isBase
                exact otherBase others isBase
    · next relative =>
        rw [parts.eq_def path, if_neg relative] at starts
        exact not_prefix_of_dropParts? (Option.map_eq_none_iff.mp none) starts

theorem samePath_join_of_relativeTo? {base path relative : String}
    (found : relativeTo? base path = some relative) : SamePath (join base relative) path := by
  rcases plainParts_of_relativeTo? found with ⟨whole, fromRoot⟩
  rw [SamePath, whole]
  cases absolute : isAbsolute relative with
  | false => exact plainParts_join absolute base
  | true =>
      rw [fromRoot absolute, join, if_pos absolute]
      rfl

end LiterateTest.Path
