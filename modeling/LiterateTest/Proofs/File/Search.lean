import LiterateTest.Proofs.File.Matching
import LiterateTest.Proofs.File.Place
import Mathlib.Data.List.Nodup

/-! What the steps of a pattern find: the files whose paths fit them, step by step. -/

namespace LiterateTest.Glob

open LiterateTest.Path FileTree

/-! ## Fitting paths -/

/-- The paths that steps stand for, piece by piece. Behind `**` stand any directories, and then what
fits one more step. -/
inductive Fits : List GlobStep → List String → Prop
  | done : Fits [] []
  | name {name : String} {steps : List GlobStep} {pieces : List String}
      (others : Fits steps pieces) : Fits (.name name :: steps) (name :: pieces)
  | pattern {tokens : List GlobToken} {name : String} {steps : List GlobStep}
      {pieces : List String} (isName : IsName name)
      (accepted : Matches tokens name.toList) (others : Fits steps pieces) :
      Fits (.pattern tokens :: steps) (name :: pieces)
  | beneath {step : GlobStep} {name : String} {steps : List GlobStep}
      {directories pieces : List String} (single : step ≠ .recursive)
      (areNames : ∀ directory ∈ directories, IsName directory) (isName : IsName name)
      (accepted : Accepts step name) (others : Fits steps pieces) :
      Fits (.recursive :: step :: steps) (directories ++ name :: pieces)
  | again {steps : List GlobStep} {pieces : List String}
      (others : Fits (.recursive :: steps) pieces) :
      Fits (.recursive :: .recursive :: steps) pieces

theorem Fits.ne_nil {steps : List GlobStep} {pieces : List String} (fits : Fits steps pieces)
    (more : steps ≠ []) : pieces ≠ [] := by
  induction fits with
  | done => exact absurd rfl more
  | name others => exact List.cons_ne_nil _ _
  | pattern isName accepted others => exact List.cons_ne_nil _ _
  | beneath single areNames isName accepted others =>
      exact List.append_ne_nil_of_right_ne_nil _ (List.cons_ne_nil _ _)
  | again others induction => exact induction (List.cons_ne_nil _ _)

/-! ## Steps that are searched without surprises -/

def IsDotted (step : GlobStep) : Prop := ∃ tokens, step = .pattern tokens ∧ dotNames tokens ≠ []

/-- Steps whose names are single ones, and that match `.` and `..` at most at the end. -/
structure Regular (steps : List GlobStep) : Prop where
  apart : ∀ name, GlobStep.name name ∈ steps → '/' ∉ name.toList
  undotted : ∀ step ∈ steps.dropLast, ¬IsDotted step

def TidySteps : List GlobStep → Prop
  | .name name :: steps => name ≠ "" ∧ (name = "." → TidySteps steps)
  | _ => True

section

variable {step : GlobStep} {steps : List GlobStep}

theorem Regular.tail (regular : Regular (step :: steps)) : Regular steps := by
  refine ⟨fun name member => regular.apart name (List.mem_cons_of_mem _ member), ?_⟩
  intro other member
  cases steps with
  | nil => cases member
  | cons next rest => exact regular.undotted other (List.mem_cons_of_mem _ member)

theorem Regular.of_append {front : List GlobStep} (regular : Regular (front ++ steps)) :
    Regular steps := by
  induction front with
  | nil => exact regular
  | cons step front induction => exact induction regular.tail

theorem Regular.dotNames_eq_nil {tokens : List GlobToken}
    (regular : Regular (.pattern tokens :: steps)) (more : steps ≠ []) : dotNames tokens = [] := by
  by_contra dots
  refine regular.undotted (.pattern tokens) ?_ ⟨tokens, rfl, dots⟩
  rw [List.dropLast_cons_of_ne_nil more]
  exact List.mem_cons_self

end

/-! ## What fits -/

section

variable {steps : List GlobStep} {names : List String}

theorem Fits.not_up (fits : Fits steps names) (downwards : GlobStep.name ".." ∉ steps) :
    ".." ∉ names := by
  induction fits with
  | done => exact List.not_mem_nil
  | name others induction =>
      rw [List.mem_cons, not_or] at downwards
      rw [List.mem_cons, not_or]
      exact ⟨fun up => downwards.1 (congrArg GlobStep.name up), induction downwards.2⟩
  | pattern isName accepted others induction =>
      rw [List.mem_cons, not_or] at downwards
      rw [List.mem_cons, not_or]
      exact ⟨Ne.symm isName.2.2.1, induction downwards.2⟩
  | beneath single areNames isName accepted others induction =>
      rw [List.mem_cons, List.mem_cons, not_or, not_or] at downwards
      rw [List.mem_append, List.mem_cons, not_or, not_or]
      exact ⟨fun member => (areNames _ member).2.2.1 rfl, Ne.symm isName.2.2.1,
        induction downwards.2.2⟩
  | again others induction => exact induction (List.not_mem_of_not_mem_cons downwards)

theorem exists_first_beneath {directories pieces : List String} {name : String}
    (areNames : ∀ directory ∈ directories, IsName directory) (isName : IsName name) :
    ∃ first rest, directories ++ name :: pieces = first :: rest ∧ IsName first := by
  cases directories with
  | nil => exact ⟨name, pieces, rfl, isName⟩
  | cons directory rest =>
      exact ⟨directory, rest ++ name :: pieces, rfl, areNames directory List.mem_cons_self⟩

theorem Fits.tidy (fits : Fits steps names) (tidy : TidySteps steps) : Tidy names := by
  induction fits with
  | done => trivial
  | name others induction => exact ⟨tidy.1, fun dot => induction (tidy.2 dot)⟩
  | pattern isName accepted others induction =>
      exact ⟨isName.1, fun dot => absurd dot isName.2.1⟩
  | @beneath step name steps directories pieces single areNames isName accepted others induction =>
      rcases @exists_first_beneath directories pieces name areNames isName with
        ⟨first, rest, same, isFirst⟩
      rw [same]
      exact ⟨isFirst.1, fun dot => absurd dot isFirst.2.1⟩
  | again others induction => exact induction trivial

theorem Fits.head?_ne_empty (fits : Fits steps names)
    (named : steps.head? ≠ some (.name "")) : ∀ name ∈ names.head?, name ≠ "" := by
  induction fits with
  | done => exact fun _ member => absurd member (Option.not_mem_none _)
  | name others induction =>
      rintro name same rfl
      cases same
      exact named rfl
  | pattern isName accepted others induction =>
      rintro name same
      cases same
      exact isName.1
  | @beneath step name steps directories pieces single areNames isName accepted others induction =>
      rcases @exists_first_beneath directories pieces name areNames isName with
        ⟨first, rest, same, isFirst⟩
      rw [same]
      rintro other isOther
      cases isOther
      exact isFirst.1
  | again others induction => exact induction (by simp)

theorem Fits.getLast?_eq {name : String} (fits : Fits steps names)
    (last : steps.getLast? = some (.name name)) : names.getLast? = some name := by
  have behind : ∀ {first : String} {pieces : List String}, pieces.getLast? = some name →
      (first :: pieces).getLast? = some name := by
    intro first pieces isLast
    rw [List.getLast?_cons, isLast, Option.getD_some]
  induction fits with
  | done => cases last
  | @name own steps pieces others induction =>
      cases steps with
      | nil =>
          cases others
          cases last
          rfl
      | cons step steps => exact behind (induction (List.getLast?_cons_cons.symm.trans last))
  | @pattern tokens own steps pieces isName accepted others induction =>
      cases steps with
      | nil => cases last
      | cons step steps => exact behind (induction (List.getLast?_cons_cons.symm.trans last))
  | @beneath step own steps directories pieces single areNames isName accepted others induction =>
      rw [List.getLast?_cons_cons] at last
      have inner : (own :: pieces).getLast? = some name := by
        cases steps with
        | nil =>
            cases others
            cases last
            exact congrArg some accepted
        | cons step steps => exact behind (induction (List.getLast?_cons_cons.symm.trans last))
      rw [List.getLast?_append, inner, Option.some_or]
  | again others induction => exact induction (List.getLast?_cons_cons.symm.trans last)

theorem fits_names_iff {front : List String} :
    Fits (front.map GlobStep.name ++ steps) names ↔
      ∃ rest, names = front ++ rest ∧ Fits steps rest := by
  induction front generalizing names with
  | nil => simp
  | cons name front induction =>
      constructor
      · intro fits
        cases fits with
        | name others =>
            rcases induction.mp others with ⟨rest, rfl, fits⟩
            exact ⟨rest, rfl, fits⟩
      · rintro ⟨rest, rfl, fits⟩
        exact .name (induction.mpr ⟨rest, rfl, fits⟩)

end

/-! ## One step of a search -/

section

variable {tree : FileTree} {path : String} {names : List String} {entry : Entry} {place : Place}

theorem reaches_cons {piece : String} {rest : List String} :
    Reaches tree path names (piece :: rest) place ↔
      ∃ next inner, follow? tree.top names piece = some next ∧ tree.top.find? next = some inner ∧
        Reaches tree (inside path piece) next rest place := by
  rw [Reaches, leads_cons]
  constructor
  · rintro ⟨same, next, inner, followed, found, leads⟩
    exact ⟨next, inner, followed, found, same, leads⟩
  · rintro ⟨next, inner, followed, found, same, leads⟩
    exact ⟨same, next, inner, followed, found, leads⟩

theorem mem_visitPath {next : Place → List Place} :
    place ∈ visitPath tree next path ↔
      ∃ found, tree.entry? path = some found ∧ place ∈ next (path, found) := by
  rw [visitPath]
  cases tree.entry? path with
  | none => simp
  | some found => simp

theorem mem_visit {step : GlobStep} {isLast : Bool} {next : Place → List Place} {name : String}
    (isName : fileName? path = some name) :
    place ∈ visit step isLast next (path, entry) ↔
      Accepts step name ∧ (isLast = true ∨ entry.isDirectory = true) ∧
        place ∈ next (path, entry) := by
  rw [visit, isName, ← accepts_iff]
  dsimp only
  cases step.accepts name <;> cases isLast <;> cases entry.isDirectory <;> simp

theorem mem_of_mem_visit {step : GlobStep} {isLast : Bool} {next : Place → List Place}
    {found : Place} (visited : place ∈ visit step isLast next found) : place ∈ next found := by
  rw [visit] at visited
  split at visited
  · cases visited
  · split at visited
    · exact visited
    · cases visited

theorem entry?_inside_iff (stands : StandsAt tree path names entry) {piece : String}
    (apart : '/' ∉ piece.toList) (tidy : plainParts path = [] → piece ≠ "") {inner : Entry} :
    tree.entry? (inside path piece) = some inner ↔
      ∃ next, follow? tree.top names piece = some next ∧ tree.top.find? next = some inner := by
  rw [entry?_def, locate?_inside stands.named apart tidy, stands.located]
  exact Option.bind_eq_some_iff

theorem isDirectory_of_dotNames (stands : StandsAt tree path names entry) {tokens : List GlobToken}
    {name : String} (isDots : name ∈ dotNames tokens) {inner : Entry}
    (found : tree.entry? (Path.join path name) = some inner) : inner.isDirectory = true := by
  have dots : name = "." ∨ name = ".." := by
    rw [dotNames] at isDots
    split at isDots
    · simpa using List.mem_of_mem_filter isDots
    · cases isDots
  have apart : '/' ∉ name.toList := by
    rcases dots with rfl | rfl <;> decide
  rw [entry?_def, locate?_join (isAbsolute_of_not_mem apart) stands.named, stands.located,
    Text.split_of_not_mem toList_slash apart] at found
  simp only [Option.bind_some, List.foldlM_cons, List.foldlM_nil, bind_pure] at found
  rcases Option.bind_eq_some_iff.mp found with ⟨next, followed, isInner⟩
  rcases directory_of_follow? followed with ⟨entries, isDirectory⟩
  rcases dots with rfl | rfl
  · rw [follow?_nothing isDirectory rfl] at followed
    cases followed
    rw [isDirectory] at isInner
    cases isInner
    rfl
  · rw [follow?, isDirectory] at followed
    cases followed
    rcases exists_directory_dropLast isDirectory with ⟨others, isParent⟩
    rw [isParent] at isInner
    cases isInner
    rfl

end

/-! ## Searches -/

/-- Whether a search finds the files that fit its steps. -/
def Finds (tree : FileTree) (steps : List GlobStep) : Prop :=
  ∀ ⦃path : String⦄ ⦃names : List String⦄ ⦃entry : Entry⦄, StandsAt tree path names entry →
    Regular steps → (plainParts path = [] → TidySteps steps) →
    ∀ place : Place, place.2.isFile = true →
      (place ∈ search tree steps (path, entry) ↔
        ∃ pieces, Fits steps pieces ∧ Reaches tree path names pieces place)

section

variable {tree : FileTree} {steps : List GlobStep}

theorem finds_nil : Finds tree [] := by
  intro path names entry stands regular tidy place isFile
  rw [search, List.mem_singleton]
  constructor
  · rintro rfl
    exact ⟨[], .done, rfl, leads_nil.mpr stands.found⟩
  · rintro ⟨pieces, fits, same, leads⟩
    cases fits
    rw [leads_nil, stands.found, Option.some_inj] at leads
    exact Prod.ext same leads.symm

theorem finds_name (finds : Finds tree steps) (name : String) : Finds tree (.name name :: steps) := by
  intro path names entry stands regular tidy place isFile
  have apart : '/' ∉ name.toList := regular.apart name List.mem_cons_self
  have starts : plainParts path = [] → name ≠ "" := fun here => (tidy here).1
  have tidyRest : plainParts (inside path name) = [] → TidySteps steps := by
    intro here
    rw [plainParts_inside stands.named apart, List.append_eq_nil_iff,
      Option.toList_eq_nil_iff] at here
    rcases part?_eq_none_iff.mp here.2 with empty | dot
    · exact absurd empty (starts here.1)
    · exact (tidy here.1).2 dot
  rw [search, mem_visitPath]
  constructor
  · rintro ⟨inner, isInner, member⟩
    rcases (entry?_inside_iff stands apart starts).mp isInner with ⟨next, followed, found⟩
    have further := stands.inside apart starts followed found
    rcases (finds further regular.tail tidyRest place isFile).mp member with ⟨pieces, fits, reaches⟩
    exact ⟨name :: pieces, .name fits, reaches_cons.mpr ⟨next, inner, followed, found, reaches⟩⟩
  · rintro ⟨pieces, fits, reaches⟩
    cases fits with
    | name others =>
        rcases reaches_cons.mp reaches with ⟨next, inner, followed, found, reachesRest⟩
        have further := stands.inside apart starts followed found
        exact ⟨inner, further.entry?_eq,
          (finds further regular.tail tidyRest place isFile).mpr ⟨_, others, reachesRest⟩⟩

theorem isFile_eq_false {entry : Entry} (isDirectory : entry.isDirectory = true) :
    entry.isFile = false := by
  cases entry with
  | file content => cases isDirectory
  | directory entries => rfl

theorem goesOn_of_reaches {path : String} {names pieces : List String} {entry : Entry} {place : Place}
    (fits : Fits steps pieces) (found : tree.top.find? names = some entry)
    (reaches : Reaches tree path names pieces place) :
    steps.isEmpty = true ∨ entry.isDirectory = true := by
  cases steps with
  | nil => exact .inl rfl
  | cons step rest =>
      exact .inr (reaches.2.isDirectory (fits.ne_nil (List.cons_ne_nil _ _)) found)

theorem not_mem_dots {path : String} {names : List String} {entry : Entry} {place : Place}
    {tokens : List GlobToken} (stands : StandsAt tree path names entry)
    (regular : Regular (.pattern tokens :: steps)) (isFile : place.2.isFile = true) :
    place ∉ (dotNames tokens).flatMap fun name =>
      visitPath tree (search tree steps) (Path.join path name) := by
  intro member
  rcases List.mem_flatMap.mp member with ⟨name, isDots, visited⟩
  have last : steps = [] := by
    by_contra more
    rw [regular.dotNames_eq_nil more] at isDots
    cases isDots
  rcases mem_visitPath.mp visited with ⟨inner, isInner, found⟩
  rw [last, search, List.mem_singleton] at found
  have isDirectory := isDirectory_of_dotNames stands isDots isInner
  rw [found, isFile_eq_false isDirectory] at isFile
  cases isFile

theorem finds_pattern (legal : tree.IsLegal) (finds : Finds tree steps) (tokens : List GlobToken) :
    Finds tree (.pattern tokens :: steps) := by
  intro path names entry stands regular tidy place isFile
  rw [search]
  constructor
  · intro member
    split at member
    · rcases List.mem_append.mp member with member | dots
      · rcases List.mem_flatMap.mp member with ⟨child, isChild, visited⟩
        rcases List.mem_map.mp isChild with ⟨⟨name, inner⟩, isEntry, rfl⟩
        rcases (legal.mem_entries_iff stands.found).mp isEntry with ⟨isName, followed, found⟩
        rcases (mem_visit (fileName?_inside stands.named isName)).mp visited with
          ⟨accepted, -, goesOn⟩
        have away := plainParts_inside_ne_nil stands.named isName
        rcases (finds (stands.child legal isEntry) regular.tail (fun here => absurd here away) place
          isFile).mp goesOn with ⟨pieces, fits, reaches⟩
        exact ⟨name :: pieces, .pattern isName accepted fits,
          reaches_cons.mpr ⟨_, inner, followed, found, reaches⟩⟩
      · exact absurd dots (not_mem_dots stands regular isFile)
    · cases member
  · rintro ⟨pieces, fits, reaches⟩
    cases fits with
    | @pattern _ name _ pieces isName accepted others =>
        rcases reaches_cons.mp reaches with ⟨next, inner, followed, found, reachesRest⟩
        rcases directory_of_follow? followed with ⟨entries, isDirectory⟩
        have same : entry = .directory entries := by
          rw [stands.found, Option.some_inj] at isDirectory
          exact isDirectory
        rw [follow?_name isDirectory isName] at followed
        cases followed
        have isEntry : (name, inner) ∈ entry.entries :=
          (legal.mem_entries_iff stands.found).mpr
            ⟨isName, follow?_name isDirectory isName, found⟩
        rw [if_pos (by rw [same]; rfl)]
        refine List.mem_append_left _ (List.mem_flatMap.mpr ⟨_, List.mem_map_of_mem isEntry, ?_⟩)
        refine (mem_visit (fileName?_inside stands.named isName)).mpr
          ⟨accepted, goesOn_of_reaches others found reachesRest, ?_⟩
        have away := plainParts_inside_ne_nil stands.named isName
        exact (finds (stands.child legal isEntry) regular.tail (fun here => absurd here away) place
          isFile).mpr ⟨pieces, others, reachesRest⟩

theorem finds_last : Finds tree [.recursive] := by
  intro path names entry stands regular tidy place isFile
  rw [search, searchBelow, List.mem_filter]
  constructor
  · rintro ⟨-, isDirectory⟩
    rw [isFile_eq_false isDirectory] at isFile
    cases isFile
  · rintro ⟨pieces, fits, -⟩
    cases fits

theorem finds_again (finds : Finds tree (.recursive :: steps)) :
    Finds tree (.recursive :: .recursive :: steps) := by
  intro path names entry stands regular tidy place isFile
  have inner := finds stands regular.tail (fun _ => trivial) place isFile
  rw [search] at inner
  rw [search, searchBelow, inner]
  constructor
  · rintro ⟨pieces, fits, reaches⟩
    exact ⟨pieces, .again fits, reaches⟩
  · rintro ⟨pieces, fits, reaches⟩
    cases fits with
    | beneath single areNames isName accepted others => exact absurd rfl single
    | again others => exact ⟨pieces, others, reaches⟩

theorem searchBelow_cons {step : GlobStep} (single : step ≠ .recursive) (place : Place) :
    searchBelow tree (step :: steps) place =
      (below place).flatMap (visit step steps.isEmpty (search tree steps)) := by
  cases step with
  | recursive => exact absurd rfl single
  | name name => rw [searchBelow]; simp
  | pattern tokens => rw [searchBelow]; simp

theorem mem_visit_beneath (finds : Finds tree steps) {path : String} {names : List String}
    {entry : Entry} (stands : StandsAt tree path names entry) (regular : Regular steps)
    {step : GlobStep} {directories : List String} {name : String} {found place : Place}
    (isFile : place.2.isFile = true)
    (leads : LeadsDown tree path names (directories ++ [name]) found) :
    place ∈ visit step steps.isEmpty (search tree steps) found ↔
      Accepts step name ∧ ∃ pieces, Fits steps pieces ∧
        Reaches tree path names (directories ++ name :: pieces) place := by
  rcases found with ⟨reachedPath, inner⟩
  rcases leads.standsAt stands with ⟨reached, along, further⟩
  have isName : IsName name := leads.1 name (List.mem_append_right _ List.mem_cons_self)
  have named : directories.foldl inside path ≠ "" := foldl_inside_ne_empty stands.named
    fun directory member => leads.1 directory (List.mem_append_left _ member)
  have same : reachedPath = inside (directories.foldl inside path) name :=
    leads.2.1.trans (List.foldl_concat _ _ _ _)
  have away : plainParts reachedPath ≠ [] := by
    rw [same]
    exact plainParts_inside_ne_nil named isName
  have isLast : fileName? reachedPath = some name := by
    rw [same]
    exact fileName?_inside named isName
  rw [mem_visit isLast, finds further regular (fun here => absurd here away) place isFile]
  have split : ∀ {pieces : List String},
      Reaches tree path names (directories ++ name :: pieces) place ↔
        Reaches tree reachedPath reached pieces place := by
    intro pieces
    rw [← List.singleton_append, ← List.append_assoc, reaches_append, same, List.foldl_concat]
    constructor
    · rintro ⟨between, other, alongToo, -, reaches⟩
      rw [along] at alongToo
      cases alongToo
      exact reaches
    · exact fun reaches => ⟨reached, inner, along, further.found, reaches⟩
  constructor
  · rintro ⟨accepted, -, pieces, fits, reaches⟩
    exact ⟨accepted, pieces, fits, split.mpr reaches⟩
  · rintro ⟨accepted, pieces, fits, reaches⟩
    have reachesRest := split.mp reaches
    exact ⟨accepted, goesOn_of_reaches fits further.found reachesRest, pieces, fits, reachesRest⟩

theorem finds_beneath (legal : tree.IsLegal) (finds : Finds tree steps) {step : GlobStep}
    (single : step ≠ .recursive) : Finds tree (.recursive :: step :: steps) := by
  intro path names entry stands regular tidy place isFile
  rw [search, searchBelow_cons single, List.mem_flatMap]
  constructor
  · rintro ⟨found, isBelow, visited⟩
    rcases (mem_placesBelow legal entry stands found).mp isBelow with ⟨more, nonempty, leads⟩
    rcases more.eq_nil_or_concat with rfl | ⟨directories, name, rfl⟩
    · exact absurd rfl nonempty
    · rw [List.concat_eq_append] at leads
      rcases (mem_visit_beneath finds stands regular.tail.tail isFile leads).mp visited with
        ⟨accepted, pieces, fits, reaches⟩
      refine ⟨_, .beneath single ?_ ?_ accepted fits, reaches⟩
      · exact fun directory member => leads.1 directory (List.mem_append_left _ member)
      · exact leads.1 name (List.mem_append_right _ List.mem_cons_self)
  · rintro ⟨pieces, fits, reaches⟩
    cases fits with
    | again others => exact absurd rfl single
    | @beneath _ name _ directories rest _ areNames isName accepted others =>
        have whole := reaches
        rw [← List.singleton_append, ← List.append_assoc, reaches_append] at whole
        rcases whole with ⟨between, inner, along, found, -⟩
        have leads : LeadsDown tree path names (directories ++ [name])
            ((directories ++ [name]).foldl inside path, inner) := by
          refine ⟨?_, rfl, between, along, found⟩
          intro other member
          rcases List.mem_append.mp member with member | member
          · exact areNames other member
          · rw [List.mem_singleton.mp member]
            exact isName
        refine ⟨_, (mem_placesBelow legal entry stands _).mpr ⟨_, ?_, leads⟩, ?_⟩
        · exact List.append_ne_nil_of_right_ne_nil _ (List.cons_ne_nil _ _)
        · exact (mem_visit_beneath finds stands regular.tail.tail isFile leads).mpr
            ⟨accepted, rest, others, reaches⟩

/-- A search finds all files that fit its steps and no others. -/
theorem finds (legal : tree.IsLegal) : (steps : List GlobStep) → Finds tree steps
  | [] => finds_nil
  | .name name :: steps => finds_name (finds legal steps) name
  | .pattern tokens :: steps => finds_pattern legal (finds legal steps) tokens
  | [.recursive] => finds_last
  | .recursive :: .recursive :: steps => finds_again (finds legal (.recursive :: steps))
  | .recursive :: .name _ :: steps => finds_beneath legal (finds legal steps) (by simp)
  | .recursive :: .pattern _ :: steps => finds_beneath legal (finds legal steps) (by simp)

def IsSound (tree : FileTree) (steps : List GlobStep) : Prop :=
  ∀ ⦃path : String⦄ ⦃entry : Entry⦄, tree.entry? path = some entry →
    ∀ place ∈ search tree steps (path, entry), tree.entry? place.1 = some place.2

theorem IsSound.visitPath (sound : IsSound tree steps) {path : String} {place : Place}
    (member : place ∈ visitPath tree (search tree steps) path) :
    tree.entry? place.1 = some place.2 := by
  rcases mem_visitPath.mp member with ⟨inner, isInner, found⟩
  exact sound isInner place found

theorem entry?_of_mem_below (legal : tree.IsLegal) {path : String} {entry : Entry}
    (isEntry : tree.entry? path = some entry) {place : Place} (member : place ∈ below (path, entry)) :
    tree.entry? place.1 = some place.2 := by
  rcases StandsAt.exists_of_entry? isEntry with ⟨names, stands⟩
  rcases (mem_placesBelow legal entry stands place).mp member with ⟨more, -, leads⟩
  rcases leads.standsAt stands with ⟨reached, -, further⟩
  exact further.entry?_eq

theorem sound_pattern (legal : tree.IsLegal) (sound : IsSound tree steps) (tokens : List GlobToken) :
    IsSound tree (.pattern tokens :: steps) := by
  intro path entry isEntry place member
  rw [search] at member
  split at member
  · rcases List.mem_append.mp member with member | dots
    · rcases List.mem_flatMap.mp member with ⟨child, isChild, visited⟩
      rcases List.mem_map.mp isChild with ⟨⟨name, inner⟩, isInner, rfl⟩
      rcases StandsAt.exists_of_entry? isEntry with ⟨names, stands⟩
      exact sound (stands.child legal isInner).entry?_eq place (mem_of_mem_visit visited)
    · rcases List.mem_flatMap.mp dots with ⟨name, -, visited⟩
      exact sound.visitPath visited
  · cases member

theorem sound_beneath (legal : tree.IsLegal) (sound : IsSound tree steps) {step : GlobStep}
    (single : step ≠ .recursive) : IsSound tree (.recursive :: step :: steps) := by
  intro path entry isEntry place member
  rw [search, searchBelow_cons single] at member
  rcases List.mem_flatMap.mp member with ⟨found, isBelow, visited⟩
  exact sound (entry?_of_mem_below legal isEntry isBelow) place (mem_of_mem_visit visited)

theorem isSound (legal : tree.IsLegal) : (steps : List GlobStep) → IsSound tree steps
  | [] => by
      intro path entry isEntry place member
      rw [search, List.mem_singleton] at member
      rw [member]
      exact isEntry
  | .name name :: steps => by
      intro path entry isEntry place member
      rw [search] at member
      exact (isSound legal steps).visitPath member
  | .pattern tokens :: steps => sound_pattern legal (isSound legal steps) tokens
  | [.recursive] => by
      intro path entry isEntry place member
      rw [search, searchBelow] at member
      exact entry?_of_mem_below legal isEntry (List.mem_of_mem_filter member)
  | .recursive :: .recursive :: steps => by
      intro path entry isEntry place member
      rw [search, searchBelow] at member
      apply isSound legal (.recursive :: steps) isEntry
      rw [search]
      exact member
  | .recursive :: .name _ :: steps => sound_beneath legal (isSound legal steps) (by simp)
  | .recursive :: .pattern _ :: steps => sound_beneath legal (isSound legal steps) (by simp)

end

end LiterateTest.Glob
