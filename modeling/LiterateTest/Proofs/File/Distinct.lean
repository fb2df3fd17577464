import LiterateTest.Proofs.File.Search

/-! Each file is found once, as long as the steps hold no two `**` with something between them. -/

namespace LiterateTest.Glob

open LiterateTest.Path FileTree

/-- Whether nothing but `**` stands between two `**`. -/
def OneRun (steps : List GlobStep) : Prop :=
  ∀ before between after, steps = before ++ .recursive :: (between ++ .recursive :: after) →
    ∀ step ∈ between, step = .recursive

theorem OneRun.tail {step : GlobStep} {steps : List GlobStep} (oneRun : OneRun (step :: steps)) :
    OneRun steps := by
  rintro before between after rfl
  exact oneRun (step :: before) between after rfl

theorem OneRun.cons_name {name : String} {steps : List GlobStep} (oneRun : OneRun steps) :
    OneRun (.name name :: steps) := by
  intro before between after same
  cases before with
  | nil => cases same
  | cons first before =>
      cases same
      exact oneRun before between after rfl

theorem OneRun.not_mem {step : GlobStep} {steps : List GlobStep}
    (oneRun : OneRun (.recursive :: step :: steps)) (single : step ≠ .recursive) :
    .recursive ∉ steps := by
  intro member
  rcases List.append_of_mem member with ⟨before, after, rfl⟩
  exact single (oneRun [] (step :: before) after rfl step List.mem_cons_self)

/-! ## Parts of what is found -/

theorem Fits.apart {steps : List GlobStep} {pieces : List String} (fits : Fits steps pieces)
    (regular : Regular steps) : ∀ piece ∈ pieces, '/' ∉ piece.toList := by
  induction fits with
  | done => exact fun _ member => absurd member List.not_mem_nil
  | name others induction =>
      exact List.forall_mem_cons.mpr
        ⟨regular.apart _ List.mem_cons_self, induction regular.tail⟩
  | pattern isName accepted others induction =>
      exact List.forall_mem_cons.mpr ⟨isName.2.2.2, induction regular.tail⟩
  | beneath single areNames isName accepted others induction =>
      refine List.forall_mem_append.mpr ⟨fun name member => (areNames name member).2.2.2, ?_⟩
      exact List.forall_mem_cons.mpr ⟨isName.2.2.2, induction regular.tail.tail⟩
  | again others induction => exact induction regular.tail

theorem Fits.length_eq {steps : List GlobStep} {pieces others : List String}
    (fits : Fits steps pieces) (fitsToo : Fits steps others) (noRun : .recursive ∉ steps) :
    (pieces.filterMap (part? false)).length = (others.filterMap (part? false)).length := by
  induction fits generalizing others with
  | done =>
      cases fitsToo
      rfl
  | @name name steps pieces rest induction =>
      cases fitsToo with
      | name restToo =>
          have inner := induction restToo fun member => noRun (List.mem_cons_of_mem _ member)
          rw [List.filterMap_cons, List.filterMap_cons]
          cases part? false name with
          | none => exact inner
          | some part => exact congrArg (· + 1) inner
  | pattern isName accepted rest induction =>
      cases fitsToo with
      | pattern isNameToo acceptedToo restToo =>
          have inner := induction restToo fun member => noRun (List.mem_cons_of_mem _ member)
          rw [List.filterMap_cons_some isName.part?, List.filterMap_cons_some isNameToo.part?,
            List.length_cons, List.length_cons, inner]
  | beneath => exact absurd List.mem_cons_self noRun
  | again => exact absurd List.mem_cons_self noRun

section

variable {tree : FileTree} {path : String} {names : List String} {entry : Entry}

theorem exists_parts_of_mem_search (legal : tree.IsLegal) {steps : List GlobStep}
    (stands : StandsAt tree path names entry) (regular : Regular steps) (away : plainParts path ≠ [])
    {place : Place} (isFile : place.2.isFile = true)
    (member : place ∈ search tree steps (path, entry)) :
    ∃ pieces, Fits steps pieces ∧
      plainParts place.1 = plainParts path ++ pieces.filterMap (part? false) := by
  have elsewhere : ∀ {Holds : Prop}, plainParts path = [] → Holds := fun here => absurd here away
  rcases (finds legal steps stands regular elsewhere place isFile).mp member with
    ⟨pieces, fits, same, -⟩
  refine ⟨pieces, fits, ?_⟩
  rw [same, plainParts_foldl_inside stands.named (fits.apart regular) elsewhere]

theorem plainParts_of_leadsDown {more : List String} {place : Place}
    (stands : StandsAt tree path names entry) (leads : LeadsDown tree path names more place) :
    plainParts place.1 = plainParts path ++ more.map PathPart.name := by
  have parts : more.filterMap (part? false) = more.map PathPart.name := by
    rw [List.filterMap_eq_map_iff_forall_eq_some]
    exact fun name member => (leads.1 name member).part?
  rw [leads.2.1, plainParts_foldl_inside stands.named
    (fun name member => (leads.1 name member).2.2.2) fun _ => tidy_of_isName leads.1, parts]

end

/-! ## Places below a place -/

def DifferentParts (places : List Place) : Prop :=
  places.Pairwise fun left right => plainParts left.1 ≠ plainParts right.1

section

variable {tree : FileTree} {path : String} {names : List String}

theorem exists_parts_of_mem_placesBelow (legal : tree.IsLegal) {entry : Entry}
    (stands : StandsAt tree path names entry) {place : Place}
    (member : place ∈ entry.placesBelow inside path) :
    ∃ part more, plainParts place.1 = plainParts path ++ part :: more := by
  rcases (mem_placesBelow legal entry stands place).mp member with ⟨more, nonempty, leads⟩
  rcases List.exists_cons_of_ne_nil nonempty with ⟨name, rest, rfl⟩
  exact ⟨.name name, rest.map PathPart.name, plainParts_of_leadsDown stands leads⟩

theorem exists_parts_of_mem_placesBelowAll (legal : tree.IsLegal) (named : path ≠ "")
    {entries : List (String × Entry)} (areNames : ∀ child ∈ entries, IsName child.1)
    (stand : ∀ child ∈ entries, StandsAt tree (inside path child.1) (names ++ [child.1]) child.2)
    {place : Place} (member : place ∈ Entry.placesBelowAll inside path entries) :
    ∃ child ∈ entries, ∃ more, plainParts place.1 = plainParts path ++ .name child.1 :: more := by
  rcases (mem_placesBelowAll legal entries stand place).mp member with ⟨child, isChild, more, leads⟩
  have isName := areNames child isChild
  refine ⟨child, isChild, more.map PathPart.name, ?_⟩
  rw [plainParts_of_leadsDown (stand child isChild) leads, plainParts_inside named isName.2.2.2,
    isName.part?, List.append_assoc]
  rfl

mutual
theorem differentParts_placesBelow (legal : tree.IsLegal) : (entry : Entry) → ∀ {path : String}
    {names : List String}, StandsAt tree path names entry →
    DifferentParts (entry.placesBelow inside path)
  | .file content, path, names, stands => .nil
  | .directory entries, path, names, stands => by
      have distinct := (legal names entries stands.found).1
      have areNames : ∀ child ∈ entries, IsName child.1 := fun child member =>
        (legal names entries stands.found).2 child.1 (List.mem_map_of_mem member)
      exact differentParts_placesBelowAll legal entries stands.named distinct areNames
        fun child member => stands.child legal member

theorem differentParts_placesBelowAll (legal : tree.IsLegal) : (entries : List (String × Entry)) →
    ∀ {path : String} {names : List String}, path ≠ "" → (Record.keys entries).Nodup →
    (∀ child ∈ entries, IsName child.1) →
    (∀ child ∈ entries, StandsAt tree (inside path child.1) (names ++ [child.1]) child.2) →
    DifferentParts (Entry.placesBelowAll inside path entries)
  | [], path, names, named, distinct, areNames, stand => .nil
  | (name, inner) :: rest, path, names, named, distinct, areNames, stand => by
      rw [Record.keys, List.map_cons, List.nodup_cons] at distinct
      have isName : IsName name := areNames (name, inner) List.mem_cons_self
      have first := stand (name, inner) List.mem_cons_self
      have restNames := fun child member => areNames child (List.mem_cons_of_mem _ member)
      have restStand := fun child member => stand child (List.mem_cons_of_mem _ member)
      have own : ∀ place ∈ (inside path name, inner) :: inner.placesBelow inside (inside path name),
          ∃ more, plainParts place.1 = plainParts path ++ .name name :: more := by
        have parts : plainParts (inside path name) = plainParts path ++ [.name name] := by
          rw [plainParts_inside named isName.2.2.2, isName.part?]
          rfl
        intro place member
        rcases List.mem_cons.mp member with rfl | member
        · exact ⟨[], parts⟩
        · rcases exists_parts_of_mem_placesBelow legal first member with ⟨part, more, same⟩
          refine ⟨part :: more, ?_⟩
          rw [same, parts, List.append_assoc]
          rfl
      rw [Entry.placesBelowAll, DifferentParts, List.pairwise_append, List.pairwise_cons]
      refine ⟨⟨fun place member same => ?_, differentParts_placesBelow legal inner first⟩,
        differentParts_placesBelowAll legal rest named distinct.2 restNames restStand,
        fun left isLeft right isRight same => ?_⟩
      · rcases exists_parts_of_mem_placesBelow legal first member with ⟨part, more, parts⟩
        rw [parts] at same
        exact absurd (List.self_eq_append_right.mp same) (List.cons_ne_nil _ _)
      · rcases own left isLeft with ⟨more, parts⟩
        rcases exists_parts_of_mem_placesBelowAll legal named restNames restStand isRight with
          ⟨child, isChild, others, otherParts⟩
        rw [parts, otherParts] at same
        cases List.append_cancel_left same
        exact distinct.1 (List.mem_map.mpr ⟨_, isChild, rfl⟩)
end

end

/-! ## Searches -/

def DifferentFiles (places : List Place) : Prop :=
  places.Pairwise fun left right => left.2.isFile = true → right.2.isFile = true →
    plainParts left.1 ≠ plainParts right.1

def FindsOnce (tree : FileTree) (steps : List GlobStep) : Prop :=
  ∀ ⦃path : String⦄ ⦃names : List String⦄ ⦃entry : Entry⦄, StandsAt tree path names entry →
    Regular steps → OneRun steps → DifferentFiles (search tree steps (path, entry))

section

variable {tree : FileTree} {steps : List GlobStep}

theorem differentFiles_of_forall {places : List Place}
    (noFile : ∀ place ∈ places, place.2.isFile = false) : DifferentFiles places := by
  refine List.pairwise_iff_forall_sublist.mpr fun {left right} sublist isFile => ?_
  rw [noFile left (sublist.subset List.mem_cons_self)] at isFile
  cases isFile

theorem DifferentFiles.visitPath {path : String}
    (different : ∀ {names entry}, StandsAt tree path names entry →
      DifferentFiles (search tree steps (path, entry))) :
    DifferentFiles (Glob.visitPath tree (search tree steps) path) := by
  rw [Glob.visitPath]
  split
  · exact .nil
  · next entry isEntry =>
      rcases StandsAt.exists_of_entry? isEntry with ⟨names, stands⟩
      exact different stands

theorem DifferentFiles.visit {step : GlobStep} {isLast : Bool} {next : Place → List Place}
    {found : Place} (different : DifferentFiles (next found)) :
    DifferentFiles (Glob.visit step isLast next found) := by
  rw [Glob.visit]
  split
  · exact .nil
  · split
    · exact different
    · exact .nil

theorem findsOnce_name (once : FindsOnce tree steps) (name : String) :
    FindsOnce tree (.name name :: steps) := by
  intro path names entry stands regular oneRun
  rw [search]
  exact DifferentFiles.visitPath fun further => once further regular.tail oneRun.tail

theorem exists_parts_of_mem_visit (legal : tree.IsLegal) {path : String} {names : List String}
    {entry inner : Entry} (stands : StandsAt tree path names entry) (regular : Regular steps)
    {name : String} (isEntry : (name, inner) ∈ entry.entries) {step : GlobStep} {isLast : Bool}
    {place : Place} (isFile : place.2.isFile = true)
    (visited : place ∈ visit step isLast (search tree steps) (inside path name, inner)) :
    ∃ more, plainParts place.1 = plainParts path ++ .name name :: more := by
  have isName := ((legal.mem_entries_iff stands.found).mp isEntry).1
  rcases exists_parts_of_mem_search legal (stands.child legal isEntry) regular
    (plainParts_inside_ne_nil stands.named isName) isFile (mem_of_mem_visit visited) with
    ⟨pieces, -, parts⟩
  refine ⟨pieces.filterMap (part? false), ?_⟩
  rw [parts, plainParts_inside stands.named isName.2.2.2, isName.part?, List.append_assoc]
  rfl

theorem pairwise_entries (legal : tree.IsLegal) {names : List String} {entry : Entry}
    (found : tree.top.find? names = some entry) :
    entry.entries.Pairwise fun left right => left.1 ≠ right.1 := by
  cases entry with
  | file content => exact .nil
  | directory entries => exact List.pairwise_map.mp (legal names entries found).1

theorem findsOnce_pattern (legal : tree.IsLegal) (once : FindsOnce tree steps)
    (tokens : List GlobToken) : FindsOnce tree (.pattern tokens :: steps) := by
  intro path names entry stands regular oneRun
  rw [search]
  split
  · refine List.pairwise_append.mpr ⟨List.pairwise_flatMap.mpr ⟨?_, ?_⟩, ?_, ?_⟩
    · intro child isChild
      rcases List.mem_map.mp isChild with ⟨⟨name, inner⟩, isEntry, rfl⟩
      exact DifferentFiles.visit (once (stands.child legal isEntry) regular.tail oneRun.tail)
    · refine List.pairwise_map.mpr ((pairwise_entries legal stands.found).imp_of_mem ?_)
      intro child other isEntry isOther apart left visited right visitedToo isFile isFileToo same
      rcases exists_parts_of_mem_visit legal stands regular.tail isEntry isFile visited with
        ⟨more, parts⟩
      rcases exists_parts_of_mem_visit legal stands regular.tail isOther isFileToo visitedToo with
        ⟨moreToo, partsToo⟩
      rw [parts, partsToo] at same
      injection List.append_cancel_left same with sameName
      injection sameName with sameName
      exact apart sameName
    · refine differentFiles_of_forall fun place dots => Bool.eq_false_iff.mpr fun isFile => ?_
      exact not_mem_dots stands regular isFile dots
    · intro left _ right dots _ isFile
      exact absurd dots (not_mem_dots stands regular isFile)
  · exact .nil

theorem findsOnce_beneath (legal : tree.IsLegal) (once : FindsOnce tree steps) {step : GlobStep}
    (single : step ≠ .recursive) : FindsOnce tree (.recursive :: step :: steps) := by
  intro path names entry stands regular oneRun
  have furtherOf : ∀ {found : Place}, found ∈ below (path, entry) →
      plainParts found.1 ≠ [] ∧ ∃ reached, StandsAt tree found.1 reached found.2 := by
    intro found isBelow
    rcases exists_parts_of_mem_placesBelow legal stands isBelow with ⟨part, others, parts⟩
    rcases (mem_placesBelow legal entry stands found).mp isBelow with ⟨more, -, leads⟩
    rcases leads.standsAt stands with ⟨reached, -, further⟩
    refine ⟨?_, reached, further⟩
    rw [parts]
    exact List.append_ne_nil_of_right_ne_nil _ (List.cons_ne_nil _ _)
  rw [search, searchBelow_cons single]
  refine List.pairwise_flatMap.mpr ⟨fun found isBelow => ?_, ?_⟩
  · rcases furtherOf isBelow with ⟨-, reached, further⟩
    exact DifferentFiles.visit (once further regular.tail.tail oneRun.tail.tail)
  · refine (differentParts_placesBelow legal entry stands).imp_of_mem ?_
    intro found other isBelow isBelowToo apart left visited right visitedToo isFile isFileToo same
    rcases furtherOf isBelow with ⟨away, reached, further⟩
    rcases furtherOf isBelowToo with ⟨awayToo, reachedToo, furtherToo⟩
    rcases exists_parts_of_mem_search legal further regular.tail.tail away isFile
      (mem_of_mem_visit visited) with ⟨pieces, fits, parts⟩
    rcases exists_parts_of_mem_search legal furtherToo regular.tail.tail awayToo isFileToo
      (mem_of_mem_visit visitedToo) with ⟨piecesToo, fitsToo, partsToo⟩
    rw [parts, partsToo] at same
    exact apart (List.append_inj_left' same (fits.length_eq fitsToo (oneRun.not_mem single)))

/-- A search finds each file once if its steps hold no two `**` apart from each other. -/
theorem findsOnce (legal : tree.IsLegal) : (steps : List GlobStep) → FindsOnce tree steps
  | [] => by
      intro path names entry stands regular oneRun
      rw [search]
      exact List.pairwise_singleton _ _
  | .name name :: steps => findsOnce_name (findsOnce legal steps) name
  | .pattern tokens :: steps => findsOnce_pattern legal (findsOnce legal steps) tokens
  | [.recursive] => by
      intro path names entry stands regular oneRun
      rw [search, searchBelow]
      exact differentFiles_of_forall fun place member =>
        isFile_eq_false (List.mem_filter.mp member).2
  | .recursive :: .recursive :: steps => by
      intro path names entry stands regular oneRun
      have inner := findsOnce legal (.recursive :: steps) stands regular.tail oneRun.tail
      rw [search] at inner
      rw [search, searchBelow]
      exact inner
  | .recursive :: .name _ :: steps => findsOnce_beneath legal (findsOnce legal steps) (by simp)
  | .recursive :: .pattern _ :: steps => findsOnce_beneath legal (findsOnce legal steps) (by simp)

end

end LiterateTest.Glob
