import LiterateTest.Document.Expansion
import LiterateTest.Proofs.File.Distinct
import LiterateTest.Proofs.File.GlobReading
import Mathlib.Data.Char
import Mathlib.Data.List.Lex
import Mathlib.Data.Prod.Lex

/-! The files that a pattern in a directory matches: those below the directory whose paths from there
on fit the pattern, in order. This takes a directory whose own name holds no wildcards, for the
pattern is put behind that name and read together with it. -/

namespace LiterateTest

open Text LiterateTest.Path FileTree Glob

/-! ## The order of paths -/

def PathPart.key (part : PathPart) : Nat ×ₗ List Char := toLex (part.rank, part.text.toList)

theorem PathPart.before_iff {left right : PathPart} :
    left.before right = true ↔ left.key < right.key := by
  rw [before, key, key, Prod.Lex.toLex_lt_toLex, Bool.or_eq_true, Bool.and_eq_true,
    decide_eq_true_iff, decide_eq_true_iff, beq_iff_eq]
  rfl

theorem PathPart.key_injective : Function.Injective PathPart.key := by
  intro left right same
  rw [key, key, EmbeddingLike.apply_eq_iff_eq, Prod.mk.injEq, String.toList_inj] at same
  rcases same with ⟨sameRank, sameText⟩
  cases left <;> cases right <;> simp_all [rank, text]

theorem partsAtMost_iff {lefts rights : List PathPart} :
    partsAtMost lefts rights = true ↔ ¬rights.map PathPart.key < lefts.map PathPart.key := by
  induction lefts generalizing rights with
  | nil => simp [partsAtMost]
  | cons left lefts induction =>
      cases rights with
      | nil => simp [partsAtMost]
      | cons right rights =>
          rw [partsAtMost, List.map_cons, List.map_cons, List.cons_lt_cons_iff,
            PathPart.key_injective.eq_iff]
          split
          · next same => simp [same, induction]
          · next other =>
              have apart := PathPart.key_injective.ne other
              simp [Ne.symm other, PathPart.before_iff, not_lt, apart.le_iff_lt]

theorem pairwise_sort (paths : List String) :
    (sort paths).Pairwise fun left right => atMost left right = true := by
  refine List.pairwise_mergeSort ?_ ?_ paths
  · intro first second third
    rw [atMost, atMost, atMost, partsAtMost_iff, partsAtMost_iff, partsAtMost_iff, not_lt, not_lt,
      not_lt]
    exact le_trans
  · intro left right
    rw [Bool.or_eq_true, atMost, atMost, partsAtMost_iff, partsAtMost_iff, not_lt, not_lt]
    exact le_total _ _

namespace Glob

/-! ## Steps of a pattern -/

def HasSteps (pattern : String) (steps : List GlobStep) : Prop :=
  List.Forall₂ ReadsAs (split pattern "/") steps

/-- Patterns that say only what is below a directory, and directories that say only where it is. -/
structure IsOrdinary (directory pattern : String) : Prop where
  plain : ∀ c ∈ directory.toList, c ∉ wildcards
  relative : isAbsolute pattern = false
  downwards : ".." ∉ split pattern "/"
  /-- Only at the end does a pattern match `.` or `..`. -/
  undotted : ∀ piece ∈ (split pattern "/").dropLast, ∀ step, ReadsAs piece step → ¬IsDotted step
  /-- No empty name follows dots at the start. -/
  tidy : isAbsolute directory = true ∨ Tidy (lead directory ++ split pattern "/")

/-- Whether paths are those of the files below a directory that fit the steps. -/
structure IsExact (tree : FileTree) (directory : String) (steps : List GlobStep)
    (found : List String) : Prop where
  sorted : found.Pairwise fun left right => atMost left right = true
  sound : ∀ path ∈ found, tree.isFile path = true ∧ ∃ names, Fits steps names ∧ ".." ∉ names ∧
    SamePath path (join directory (joinWith "/" names)) ∧
    tree.isFile (join directory (joinWith "/" names)) = true
  complete : ∀ names, Fits steps names → tree.isFile (join directory (joinWith "/" names)) = true →
    ∃ path ∈ found, SamePath path (join directory (joinWith "/" names))
  once : OneRun steps → (found.map plainParts).Nodup

section

variable {pieces : List String} {steps : List GlobStep} (reads : List.Forall₂ ReadsAs pieces steps)

include reads

theorem exists_piece_of_mem {step : GlobStep} (member : step ∈ steps) :
    ∃ piece ∈ pieces, ReadsAs piece step := by
  induction reads with
  | nil => cases member
  | cons first others induction =>
      rcases List.mem_cons.mp member with rfl | member
      · exact ⟨_, List.mem_cons_self, first⟩
      · rcases induction member with ⟨piece, isPiece, own⟩
        exact ⟨piece, List.mem_cons_of_mem _ isPiece, own⟩

theorem mem_of_name {name : String} (member : GlobStep.name name ∈ steps) : name ∈ pieces := by
  rcases exists_piece_of_mem reads member with ⟨piece, isPiece, own⟩
  rwa [own.eq_of_name]

theorem tidySteps (tidy : Tidy pieces) : TidySteps steps := by
  induction reads with
  | nil => trivial
  | @cons piece step pieces steps first others induction =>
      cases step with
      | name name =>
          cases first.eq_of_name
          exact ⟨tidy.1, fun dot => induction (tidy.2 dot)⟩
      | pattern tokens => trivial
      | recursive => trivial

end

/-! ## Files at joined paths -/

section

variable {tree : FileTree} {path : String}

theorem isFile_iff :
    tree.isFile path = true ↔ ∃ entry, tree.entry? path = some entry ∧ entry.isFile = true := by
  rw [FileTree.isFile]
  cases tree.entry? path <;> simp

theorem isFile_of_slash (last : (pieces path).getLast? = some "") : tree.isFile path = false := by
  rw [Bool.eq_false_iff]
  intro isFile
  rcases isFile_iff.mp isFile with ⟨entry, isEntry, entryIsFile⟩
  rcases StandsAt.exists_of_entry? isEntry with ⟨names, stands⟩
  rcases List.getLast?_eq_some_iff.mp last with ⟨front, same⟩
  have located := stands.located
  rw [locate?_eq stands.named, same, List.foldlM_append] at located
  rcases Option.bind_eq_some_iff.mp located with ⟨between, -, after⟩
  simp only [List.foldlM_cons, List.foldlM_nil, bind_pure] at after
  rcases directory_of_follow? after with ⟨entries, isDirectory⟩
  rw [follow?_nothing isDirectory (part?_eq_none_iff.mpr (.inl rfl))] at after
  cases after
  have found := stands.found
  rw [isDirectory] at found
  cases found
  cases entryIsFile

def startPath (absolute : Bool) : String := if absolute then "/" else "."

theorem plainParts_startPath (path : String) :
    plainParts (startPath (isAbsolute path)) = rootOf path := by
  rw [startPath, rootOf]
  cases isAbsolute path <;> rfl

theorem locate?_startPath :
    tree.locate? (startPath (isAbsolute path)) = follow? tree.top (tree.start path) "" := by
  rw [startPath, FileTree.start]
  cases isAbsolute path with
  | true => exact bind_pure _
  | false =>
      have dot : follow? tree.top tree.directory "." = follow? tree.top tree.directory "" := rfl
      rw [if_neg Bool.false_ne_true, if_neg Bool.false_ne_true, ← dot]
      exact bind_pure _

theorem standsAt_start {entry : Entry}
    (found : tree.entry? (startPath (isAbsolute path)) = some entry) :
    StandsAt tree (startPath (isAbsolute path)) (tree.start path) entry := by
  rcases StandsAt.exists_of_entry? found with ⟨names, stands⟩
  have located := stands.located
  rw [locate?_startPath] at located
  rcases directory_of_follow? located with ⟨entries, isDirectory⟩
  rw [follow?_nothing isDirectory (part?_eq_none_iff.mpr (.inl rfl))] at located
  cases located
  exact stands

theorem exists_entry?_start {entry : Entry} (isEntry : tree.entry? path = some entry) :
    ∃ first, tree.entry? (startPath (isAbsolute path)) = some first := by
  rcases StandsAt.exists_of_entry? isEntry with ⟨names, stands⟩
  have located := stands.located
  rcases List.exists_cons_of_ne_nil (pieces_ne_nil path) with ⟨piece, rest, same⟩
  rw [locate?_eq stands.named, same, List.foldlM_cons] at located
  rcases Option.bind_eq_some_iff.mp located with ⟨next, followed, -⟩
  rcases directory_of_follow? followed with ⟨entries, isDirectory⟩
  refine ⟨.directory entries, ?_⟩
  rw [entry?_def, locate?_startPath, follow?_nothing isDirectory (part?_eq_none_iff.mpr (.inl rfl))]
  exact isDirectory

end

/-! ## What an ordinary pattern finds -/

def stepsFrom (directory : String) (steps : List GlobStep) : List GlobStep :=
  (lead directory).map GlobStep.name ++ steps

section

variable {directory pattern : String} {steps : List GlobStep} {names : List String}

theorem HasSteps.ne_nil (hasSteps : HasSteps pattern steps) : steps ≠ [] := by
  rintro rfl
  exact split_ne_nil toList_slash pattern (List.forall₂_nil_right_iff.mp hasSteps)

theorem HasSteps.eq_of_empty (hasSteps : HasSteps pattern steps) (empty : pattern = "") :
    steps = [.name ""] := by
  have alone : split "" "/" = [""] := rfl
  rw [HasSteps, empty, alone] at hasSteps
  cases hasSteps with
  | cons own others =>
      cases others
      rw [own.eq_of_empty]

theorem HasSteps.getLast?_eq (hasSteps : HasSteps pattern steps)
    (last : (split pattern "/").getLast? = some "") : steps.getLast? = some (.name "") := by
  rw [HasSteps, ← List.forall₂_reverse_iff] at hasSteps
  rw [← List.head?_reverse] at last ⊢
  generalize (split pattern "/").reverse = pieces at hasSteps last
  generalize steps.reverse = turned at hasSteps
  cases hasSteps with
  | nil => cases last
  | cons own others =>
      cases last
      rw [own.eq_of_empty]
      rfl

theorem HasSteps.head?_ne (hasSteps : HasSteps pattern steps) (relative : isAbsolute pattern = false)
    (named : pattern ≠ "") : steps.head? ≠ some (.name "") := by
  intro first
  have starts := head?_pieces_of_relative relative named
  rw [pieces_of_relative relative] at starts
  rw [HasSteps] at hasSteps
  generalize split pattern "/" = pieces at hasSteps starts
  cases hasSteps with
  | nil => cases first
  | cons own others =>
      cases first
      exact starts _ rfl own.eq_of_name.symm

namespace IsOrdinary

variable (ordinary : IsOrdinary directory pattern) (hasSteps : HasSteps pattern steps)

include ordinary hasSteps

theorem readsAs_stepsFrom :
    List.Forall₂ ReadsAs (pieces (join directory pattern)) (stepsFrom directory steps) := by
  have front : List.Forall₂ ReadsAs (lead directory) ((lead directory).map GlobStep.name) := by
    refine List.forall₂_map_right_iff.mpr (List.forall₂_same.mpr fun piece member => ?_)
    refine readsAs_of_plain fun c inside => ordinary.plain c ?_
    exact mem_of_mem_pieces (mem_pieces_of_mem_lead member) inside
  rw [pieces_join ordinary.relative]
  exact List.rel_append front hasSteps

theorem regular : Regular (stepsFrom directory steps) := by
  refine ⟨fun name member => ?_, fun step member => ?_⟩
  · exact not_mem_of_mem_pieces (mem_of_name (ordinary.readsAs_stepsFrom hasSteps) member)
  · rw [stepsFrom, List.dropLast_append_of_ne_nil hasSteps.ne_nil, List.mem_append] at member
    rcases member with member | member
    · rcases List.mem_map.mp member with ⟨name, -, rfl⟩
      rintro ⟨tokens, same, -⟩
      cases same
    · have inner : List.Forall₂ ReadsAs (split pattern "/").dropLast steps.dropLast := by
        rw [List.dropLast_eq_take, List.dropLast_eq_take, hasSteps.length_eq]
        exact List.forall₂_take _ hasSteps
      rcases exists_piece_of_mem inner member with ⟨piece, isPiece, reads⟩
      exact ordinary.undotted piece isPiece step reads

theorem apart (fits : Fits steps names) : ∀ name ∈ names, '/' ∉ name.toList :=
  fits.apart (ordinary.regular hasSteps).of_append

theorem isAbsolute_names (fits : Fits steps names) : isAbsolute (joinWith "/" names) = false := by
  by_cases empty : pattern = ""
  · rw [hasSteps.eq_of_empty empty] at fits
    cases fits with
    | name others =>
        cases others
        rfl
  · exact isAbsolute_joinWith (ordinary.apart hasSteps fits)
      (fits.head?_ne_empty (hasSteps.head?_ne ordinary.relative empty))

theorem pieces_names (fits : Fits steps names) :
    pieces (join directory (joinWith "/" names)) = lead directory ++ names := by
  rw [pieces_join (ordinary.isAbsolute_names hasSteps fits),
    split_joinWith toList_slash (ordinary.apart hasSteps fits) (fits.ne_nil hasSteps.ne_nil)]

theorem plainParts_names (fits : Fits steps names) :
    plainParts (join directory (joinWith "/" names)) =
      rootOf directory ++ (lead directory ++ names).filterMap (part? false) := by
  rw [plainParts_eq, ← filterMap_pieces, ordinary.pieces_names hasSteps fits, rootOf, rootOf,
    isAbsolute_join (ordinary.isAbsolute_names hasSteps fits)]

theorem names_ne_empty (fits : Fits steps names) (named : (split pattern "/").getLast? ≠ some "") :
    join directory (joinWith "/" names) ≠ "" := by
  intro empty
  have alone := ordinary.pieces_names hasSteps fits
  have more := fits.ne_nil hasSteps.ne_nil
  have isPattern : pattern ≠ "" := by
    rintro rfl
    exact named rfl
  have starts := fits.head?_ne_empty (hasSteps.head?_ne ordinary.relative isPattern)
  rw [empty] at alone
  change [""] = _ at alone
  rcases List.append_eq_singleton_iff.mp alone.symm with ⟨-, isNames⟩ | ⟨-, isNames⟩
  · rw [isNames] at starts
    exact starts "" rfl rfl
  · exact more isNames

theorem entry?_names_iff {tree : FileTree} (fits : Fits steps names)
    (named : (split pattern "/").getLast? ≠ some "") {entry : Entry} :
    tree.entry? (join directory (joinWith "/" names)) = some entry ↔
      Leads tree (tree.start directory) (lead directory ++ names) entry := by
  have sameStart : tree.start (join directory (joinWith "/" names)) = tree.start directory := by
    rw [FileTree.start, FileTree.start, isAbsolute_join (ordinary.isAbsolute_names hasSteps fits)]
  rw [entry?_def, locate?_eq (ordinary.names_ne_empty hasSteps fits named), sameStart,
    ordinary.pieces_names hasSteps fits]
  exact Option.bind_eq_some_iff

theorem tidySteps_start (here : plainParts (startPath (isAbsolute directory)) = []) :
    TidySteps (stepsFrom directory steps) := by
  rw [plainParts_startPath, rootOf] at here
  rcases ordinary.tidy with absolute | tidy
  · rw [if_pos absolute] at here
    cases here
  · apply tidySteps (ordinary.readsAs_stepsFrom hasSteps)
    rwa [pieces_join ordinary.relative]

theorem mem_search_iff {tree : FileTree} (legal : tree.IsLegal)
    (named : (split pattern "/").getLast? ≠ some "") {start : Entry}
    (isStart : tree.entry? (startPath (isAbsolute directory)) = some start) {place : Place}
    (isFile : place.2.isFile = true) :
    place ∈ search tree (stepsFrom directory steps) (startPath (isAbsolute directory), start) ↔
      ∃ names, Fits steps names ∧
        place.1 = (lead directory ++ names).foldl inside (startPath (isAbsolute directory)) ∧
        tree.entry? (join directory (joinWith "/" names)) = some place.2 := by
  rw [finds legal _ (standsAt_start isStart) (ordinary.regular hasSteps)
    (ordinary.tidySteps_start hasSteps) place isFile]
  constructor
  · rintro ⟨whole, fitsWhole, same, leads⟩
    rcases fits_names_iff.mp fitsWhole with ⟨names, rfl, fits⟩
    exact ⟨names, fits, same, (ordinary.entry?_names_iff hasSteps fits named).mpr leads⟩
  · rintro ⟨names, fits, same, isEntry⟩
    exact ⟨_, fits_names_iff.mpr ⟨names, rfl, fits⟩, same,
      (ordinary.entry?_names_iff hasSteps fits named).mp isEntry⟩

theorem samePath_names {tree : FileTree} {start : Entry}
    (isStart : tree.entry? (startPath (isAbsolute directory)) = some start)
    (fits : Fits steps names) :
    SamePath ((lead directory ++ names).foldl inside (startPath (isAbsolute directory)))
      (join directory (joinWith "/" names)) := by
  have whole : Fits (stepsFrom directory steps) (lead directory ++ names) :=
    fits_names_iff.mpr ⟨names, rfl, fits⟩
  rw [SamePath, ordinary.plainParts_names hasSteps fits, plainParts_foldl_inside
    (standsAt_start isStart).named (whole.apart (ordinary.regular hasSteps))
    fun here => whole.tidy (ordinary.tidySteps_start hasSteps here), plainParts_startPath]

theorem not_up (fits : Fits steps names) : ".." ∉ names :=
  fits.not_up fun up => ordinary.downwards (mem_of_name hasSteps up)

end IsOrdinary

theorem isFile_of_mem_search {tree : FileTree} (legal : tree.IsLegal) {path : String} {entry : Entry}
    (isEntry : tree.entry? path = some entry) {place : Place}
    (member : place ∈ search tree steps (path, entry)) : tree.isFile place.1 = place.2.isFile := by
  rw [FileTree.isFile, isSound legal steps isEntry place member]
  rfl

theorem oneRun_stepsFrom (oneRun : OneRun steps) : OneRun (stepsFrom directory steps) := by
  rw [stepsFrom]
  induction lead directory with
  | nil => exact oneRun
  | cons name front induction => exact induction.cons_name

def filesAt (tree : FileTree) (places : List Place) : List String :=
  sort ((places.map Prod.fst).filter tree.isFile)

section

variable {tree : FileTree} {places : List Place}
  (isFileAt : ∀ place ∈ places, tree.isFile place.1 = place.2.isFile)

include isFileAt

theorem mem_filesAt_iff {path : String} :
    path ∈ filesAt tree places ↔ ∃ place ∈ places, place.2.isFile = true ∧ place.1 = path := by
  rw [filesAt, sort, List.mem_mergeSort, List.mem_filter, List.mem_map]
  constructor
  · rintro ⟨⟨place, member, rfl⟩, isFile⟩
    exact ⟨place, member, (isFileAt place member).symm.trans isFile, rfl⟩
  · rintro ⟨place, member, isFile, rfl⟩
    exact ⟨⟨place, member, rfl⟩, (isFileAt place member).trans isFile⟩

theorem nodup_filesAt (different : DifferentFiles places) :
    ((filesAt tree places).map plainParts).Nodup := by
  have perm := (List.mergeSort_perm ((places.map Prod.fst).filter tree.isFile) atMost).map plainParts
  refine perm.nodup_iff.mpr (List.pairwise_map.mpr (List.pairwise_filter.mpr ?_))
  refine List.pairwise_map.mpr (different.imp_of_mem ?_)
  intro left right isLeft isRight apart leftIsFile rightIsFile
  exact apart ((isFileAt left isLeft).symm.trans leftIsFile)
    ((isFileAt right isRight).symm.trans rightIsFile)

end

theorem isExact_filesAt {tree : FileTree} (legal : tree.IsLegal)
    (ordinary : IsOrdinary directory pattern) (hasSteps : HasSteps pattern steps)
    (named : (split pattern "/").getLast? ≠ some "") {start : Entry}
    (isStart : tree.entry? (startPath (isAbsolute directory)) = some start) :
    IsExact tree directory steps (filesAt tree
      (search tree (stepsFrom directory steps) (startPath (isAbsolute directory), start))) := by
  have isFileAt := fun place => @isFile_of_mem_search (stepsFrom directory steps) tree legal _ _
    isStart place
  have finds := fun {place : Place} (isFile : place.2.isFile = true) =>
    ordinary.mem_search_iff hasSteps legal named isStart isFile
  refine ⟨pairwise_sort _, ?_, ?_, ?_⟩
  · intro path member
    rcases (mem_filesAt_iff isFileAt).mp member with ⟨place, isPlace, isFile, rfl⟩
    rcases (finds isFile).mp isPlace with ⟨names, fits, same, isEntry⟩
    refine ⟨(isFileAt place isPlace).trans isFile, names, fits, ordinary.not_up hasSteps fits, ?_,
      isFile_iff.mpr ⟨place.2, isEntry, isFile⟩⟩
    rw [same]
    exact ordinary.samePath_names hasSteps isStart fits
  · intro names fits isFile
    rcases isFile_iff.mp isFile with ⟨entry, isEntry, entryIsFile⟩
    let place : Place :=
      ((lead directory ++ names).foldl inside (startPath (isAbsolute directory)), entry)
    have isPlace := (@finds place entryIsFile).mpr ⟨names, fits, rfl, isEntry⟩
    refine ⟨place.1, ?_, ordinary.samePath_names hasSteps isStart fits⟩
    exact (mem_filesAt_iff isFileAt).mpr ⟨place, isPlace, entryIsFile, rfl⟩
  · intro oneRun
    exact nodup_filesAt isFileAt (findsOnce legal _ (standsAt_start isStart)
      (ordinary.regular hasSteps) (oneRun_stepsFrom oneRun))

theorem isExact_nil {tree : FileTree} (ordinary : IsOrdinary directory pattern)
    (hasSteps : HasSteps pattern steps) (last : (split pattern "/").getLast? = some "") :
    IsExact tree directory steps [] := by
  refine ⟨.nil, fun _ member => absurd member List.not_mem_nil, fun names fits isFile => ?_,
    fun _ => .nil⟩
  have ends : (pieces (join directory (joinWith "/" names))).getLast? = some "" := by
    rw [ordinary.pieces_names hasSteps fits, List.getLast?_append,
      fits.getLast?_eq (hasSteps.getLast?_eq last), Option.some_or]
  rw [isFile_of_slash ends] at isFile
  cases isFile

theorem exists_hasSteps (each : ∀ piece ∈ split pattern "/", ∃ tokens, read piece = .ok tokens) :
    ∃ steps, HasSteps pattern steps := by
  have reads : ∀ piece ∈ split pattern "/", ∃ tokens, read piece = .ok tokens ∧
      ReadsAs piece (GlobStep.ofTokens tokens) := by
    intro piece member
    rcases each piece member with ⟨tokens, isRead⟩
    exact ⟨tokens, isRead, tokens, isRead, rfl⟩
  rcases exists_mapM reads with ⟨all, -, holds⟩
  exact ⟨all.map GlobStep.ofTokens, List.forall₂_map_right_iff.mpr holds⟩

theorem filter_isFile_paths {tree : FileTree} (legal : tree.IsLegal) {glob : Glob}
    (directories : glob.directoriesOnly = true) : (glob.paths tree).filter tree.isFile = [] := by
  refine List.filter_eq_nil_iff.mpr fun path member isFile => ?_
  rw [paths] at member
  dsimp only at member
  split at member
  · cases member
  · next entry isEntry =>
      rw [if_pos directories] at member
      rcases List.mem_map.mp member with ⟨place, isPlace, rfl⟩
      rcases List.mem_filter.mp isPlace with ⟨isFound, isDirectory⟩
      rw [isFile_of_mem_search legal isEntry isFound, isFile_eq_false isDirectory] at isFile
      cases isFile

end

end Glob

section

variable {tree : FileTree} {directory pattern : String} {steps : List GlobStep}

theorem matchedFiles_of_slash (legal : tree.IsLegal) (ordinary : IsOrdinary directory pattern)
    (hasSteps : HasSteps pattern steps) (last : (split pattern "/").getLast? = some "") :
    matchedFiles tree pattern directory = .ok [] := by
  by_cases empty : join directory pattern = ""
  · have isGlob : Glob.ofString "" = .ok ⟨false, [.name ""], false⟩ := rfl
    have nothing : paths tree ⟨false, [.name ""], false⟩ = [] := by
      rw [paths]
      dsimp only
      split
      · rfl
      · next entry isEntry =>
          have nowhere : tree.entry? (inside "." "") = none := by
            rw [inside_of_here (by decide) (by decide)]
            rfl
          have none : search tree [.name ""] (".", entry) = [] := by
            rw [search, visitPath, nowhere]
          exact congrArg (List.map Prod.fst) none
    rw [matchedFiles, empty, isGlob]
    dsimp only
    rw [nothing, List.filter_nil, sort, List.mergeSort_nil]
  · have ends : (pieces (join directory pattern)).getLast? = some "" := by
      rw [pieces_join ordinary.relative, List.getLast?_append, last, Option.some_or]
    rcases exists_ofString_of_slash (ordinary.readsAs_stepsFrom hasSteps) ends with
      ⟨glob, isGlob, directories⟩
    rw [matchedFiles, isGlob]
    dsimp only
    rw [filter_isFile_paths legal (directories empty), sort, List.mergeSort_nil]

theorem exists_matchedFiles (legal : tree.IsLegal) (ordinary : IsOrdinary directory pattern)
    (hasSteps : HasSteps pattern steps) (named : (split pattern "/").getLast? ≠ some "") :
    ∃ found, matchedFiles tree pattern directory = .ok found ∧
      IsExact tree directory steps found := by
  have ends : (pieces (join directory pattern)).getLast? ≠ some "" := by
    rw [pieces_join ordinary.relative, List.getLast?_append]
    cases last : (split pattern "/").getLast? with
    | none => exact absurd (List.getLast?_eq_none_iff.mp last) (split_ne_nil toList_slash pattern)
    | some name =>
        rw [last] at named
        exact named
  rw [matchedFiles, ofString_eq (ordinary.readsAs_stepsFrom hasSteps) ends,
    isAbsolute_join ordinary.relative]
  refine ⟨_, rfl, ?_⟩
  rw [paths]
  dsimp only
  rw [← startPath]
  cases isStart : tree.entry? (startPath (isAbsolute directory)) with
  | some start => exact isExact_filesAt legal ordinary hasSteps named isStart
  | none =>
      dsimp only
      rw [List.filter_nil, sort, List.mergeSort_nil]
      refine ⟨.nil, fun _ member => absurd member List.not_mem_nil, fun names fits isFile => ?_,
        fun _ => .nil⟩
      rcases isFile_iff.mp isFile with ⟨entry, isEntry, -⟩
      rcases exists_entry?_start isEntry with ⟨first, isFirst⟩
      rw [isAbsolute_join (ordinary.isAbsolute_names hasSteps fits), isStart] at isFirst
      cases isFirst

/-- The files that a relative pattern matches are those below the directory that fit it, in order.
This takes a directory without wildcards in its name, and a pattern that leads downwards. -/
theorem matchedFiles_exact (legal : tree.IsLegal) (ordinary : IsOrdinary directory pattern) :
    (∀ steps, HasSteps pattern steps →
      ∃ found, matchedFiles tree pattern directory = .ok found ∧
        IsExact tree directory steps found) ∧
    ((¬∃ steps, HasSteps pattern steps) →
      ∃ fault, matchedFiles tree pattern directory = .error (.invalidGlob fault)) := by
  constructor
  · intro steps hasSteps
    by_cases last : (split pattern "/").getLast? = some ""
    · exact ⟨[], matchedFiles_of_slash legal ordinary hasSteps last,
        isExact_nil ordinary hasSteps last⟩
    · exact exists_matchedFiles legal ordinary hasSteps last
  · intro unread
    have exists_piece : ∃ piece ∈ split pattern "/", ¬∃ tokens, read piece = .ok tokens := by
      by_contra none
      refine unread (exists_hasSteps fun piece member => ?_)
      by_contra wrong
      exact none ⟨piece, member, wrong⟩
    rcases exists_piece with ⟨piece, member, unreadable⟩
    have inside : piece ∈ pieces (join directory pattern) := by
      rw [pieces_join ordinary.relative]
      exact List.mem_append_right _ member
    rcases exists_fault_of_not_read inside unreadable with ⟨fault, failed⟩
    exact ⟨fault, by rw [matchedFiles, failed]⟩

end

/-! ## A tree of documents -/

theorem isLegal_file (content : List UInt8) : FileTree.IsLegal { top := .file content } := by
  intro names entries found
  cases names <;> cases found

theorem isLegal_directory {entries : List (String × Entry)} (distinct : (Record.keys entries).Nodup)
    (areNames : ∀ name ∈ Record.keys entries, IsName name)
    (inner : ∀ child ∈ entries, FileTree.IsLegal { top := child.2 }) :
    FileTree.IsLegal { top := .directory entries } := by
  intro names others found
  cases names with
  | nil =>
      cases found
      exact ⟨distinct, areNames⟩
  | cons name names =>
      rcases Option.bind_eq_some_iff.mp found with ⟨child, isChild, foundInside⟩
      exact inner _ (Record.mem_of_get? isChild) names others foundInside

theorem matchedFiles_of_paths {tree : FileTree} {directory pattern : String} {glob : Glob}
    {found : List String} (isGlob : Glob.ofString (join directory pattern) = .ok glob)
    (isFound : (glob.paths tree).filter tree.isFile = found)
    (sorted : found.Pairwise fun left right => atMost left right = true) :
    matchedFiles tree pattern directory = .ok found := by
  rw [matchedFiles, isGlob]
  dsimp only
  rw [isFound, sort, List.mergeSort_of_pairwise sorted]

theorem matchedFiles_exact_of_documents :
    let inner : List (String × Entry) := [("b.md", .file [])]
    let documents : List (String × Entry) := [("a.md", .file []), ("sub", .directory inner)]
    let tree : FileTree := { top := .directory [("docs", .directory documents)] }
    let steps : List GlobStep := [.recursive, .pattern [.anyText, .char '.', .char 'm', .char 'd']]
    tree.IsLegal ∧ IsOrdinary "docs" "**/*.md" ∧ HasSteps "**/*.md" steps ∧
      matchedFiles tree "**/*.md" "docs" = .ok ["docs/a.md", "docs/sub/b.md"] ∧
      IsExact tree "docs" steps ["docs/a.md", "docs/sub/b.md"] := by
  intro inner documents tree steps
  have innerLegal : FileTree.IsLegal { top := .directory inner } := by
    refine isLegal_directory (by decide) (by decide) fun child member => ?_
    cases List.mem_singleton.mp member
    exact isLegal_file []
  have documentsLegal : FileTree.IsLegal { top := .directory documents } := by
    refine isLegal_directory (by decide) (by decide) fun child member => ?_
    rcases List.mem_cons.mp member with rfl | member
    · exact isLegal_file []
    · cases List.mem_singleton.mp member
      exact innerLegal
  have legal : tree.IsLegal := by
    refine isLegal_directory (by decide) (by decide) fun child member => ?_
    cases List.mem_singleton.mp member
    exact documentsLegal
  have ordinary : IsOrdinary "docs" "**/*.md" := by
    refine ⟨fun c member => ?_, rfl, by decide +kernel, ?_, .inr ⟨?_, fun dot => ?_⟩⟩
    · have plain : ("docs".toList.all fun c => decide (c ∉ wildcards)) = true := by decide
      exact of_decide_eq_true (List.all_eq_true.mp plain c member)
    · intro piece member step reads
      cases List.mem_singleton.mp member
      rcases reads with ⟨tokens, isRead, rfl⟩
      cases isRead
      rintro ⟨others, same, -⟩
      cases same
    · decide +kernel
    · exact absurd dot (by decide +kernel)
  have hasSteps : HasSteps "**/*.md" steps :=
    .cons ⟨_, rfl, by decide⟩ (.cons ⟨_, rfl, by decide⟩ .nil)
  have matched : matchedFiles tree "**/*.md" "docs" = .ok ["docs/a.md", "docs/sub/b.md"] := by
    refine matchedFiles_of_paths rfl ?_ ?_
    · decide +kernel
    · decide +kernel
  rcases (matchedFiles_exact legal ordinary).1 steps hasSteps with ⟨found, isFound, exact⟩
  rw [matched] at isFound
  cases isFound
  exact ⟨legal, ordinary, hasSteps, matched, exact⟩

/-- The conditions cannot be left out. A bracket in the name of the directory stands for another
directory; with two `**` a file comes twice; dots are followed up and out of the directory; and behind
`.//` nothing is found. -/
theorem matchedFiles_exact_exceptions :
    let file : Entry := .file []
    let files : List (String × Entry) := [("q.x", file)]
    let nested : Entry := .directory [("a", .directory [("a", .directory [("b", file)])])]
    let directories : List (String × Entry) := [("w1", .directory files), ("w[1]", .directory files)]
    let bracketed : FileTree := { top := .directory directories }
    let deep : FileTree := { top := .directory [("d", nested)] }
    let hidden : FileTree := { top := .directory [("d", .empty), ("x", file)] }
    (bracketed.isFile "w[1]/q.x" = true ∧
      matchedFiles bracketed "*.x" "w[1]" = .ok ["w1/q.x"]) ∧
    matchedFiles deep "**/a/**/b" "d" = .ok ["d/a/a/b", "d/a/a/b"] ∧
    matchedFiles hidden ".*/x" "d" = .ok ["d/../x"] ∧
    (hidden.isFile "x" = true ∧ matchedFiles hidden "?" ".//" = .ok []) := by
  intro file files nested directories bracketed deep hidden
  refine ⟨⟨by decide, ?_⟩, ?_, ?_, by decide, ?_⟩
  all_goals
    refine matchedFiles_of_paths rfl ?_ ?_
    · decide +kernel
    · decide +kernel

end LiterateTest
