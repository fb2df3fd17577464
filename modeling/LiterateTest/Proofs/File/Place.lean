import LiterateTest.File.Glob
import LiterateTest.Proofs.File.Tree

/-! The paths that a search gives to the places it comes by, and the places below a place. -/

namespace LiterateTest

open Text

theorem IsName.part? {name : String} (isName : IsName name) :
    Path.part? false name = some (.name name) := by
  rcases isName with ⟨named, noDot, noDots, -⟩
  rw [Path.part?, if_neg named, if_neg noDot, if_neg noDots]

namespace Glob

open LiterateTest.Path FileTree

/-! ## Paths of entries -/

section

variable {path piece : String} (named : path ≠ "") (apart : '/' ∉ piece.toList)

include named

theorem inside_of_here (here : plainParts path = []) : inside path piece = piece := by
  rw [inside, if_pos]
  rw [(parts_eq_here_iff named).mpr here]
  rfl

theorem inside_of_not_here (notHere : plainParts path ≠ []) :
    inside path piece = Path.join path piece := by
  rw [inside, if_neg]
  rw [beq_iff_eq, parts_eq_here_iff named]
  exact notHere

include apart

theorem plainParts_inside :
    plainParts (inside path piece) = plainParts path ++ (part? false piece).toList := by
  rw [← plainParts_of_not_mem apart]
  by_cases here : plainParts path = []
  · rw [inside_of_here named here, here, List.nil_append]
  · rw [inside_of_not_here named here, plainParts_join (isAbsolute_of_not_mem apart)]

theorem inside_ne_empty (tidy : plainParts path = [] → piece ≠ "") : inside path piece ≠ "" := by
  by_cases here : plainParts path = []
  · rw [inside_of_here named here]
    exact tidy here
  · rw [inside_of_not_here named here]
    intro empty
    have parts := plainParts_join (isAbsolute_of_not_mem apart) path
    rw [empty] at parts
    exact here (List.append_eq_nil_iff.mp parts.symm).1

end

theorem fileName?_inside {path name : String} (named : path ≠ "") (isName : IsName name) :
    Path.fileName? (inside path name) = some name := by
  have plain := plainParts_inside named isName.2.2.2
  rw [isName.part?, Option.toList_some] at plain
  rw [Path.fileName?]
  rcases parts_cases (inside path name) with same | same
  · rw [same, plain, List.getLast?_concat]
  · rw [same, plain, ← List.cons_append, List.getLast?_concat]

theorem plainParts_inside_ne_nil {path name : String} (named : path ≠ "") (isName : IsName name) :
    plainParts (inside path name) ≠ [] := by
  rw [plainParts_inside named isName.2.2.2, isName.part?]
  simp

section

variable {tree : FileTree} {path : String} {names : List String}

theorem ne_empty_of_locate? (located : tree.locate? path = some names) : path ≠ "" := by
  rintro rfl
  cases located

theorem foldlM_follow?_nothing {pieces : List String} {entries : List (String × Entry)}
    (isDirectory : tree.top.find? names = some (.directory entries))
    (nothing : ∀ piece ∈ pieces, part? false piece = none) :
    pieces.foldlM (follow? tree.top) names = some names := by
  induction pieces with
  | nil => rfl
  | cons piece rest induction =>
      rw [List.foldlM_cons, follow?_nothing isDirectory (nothing piece List.mem_cons_self)]
      exact induction fun other member => nothing other (List.mem_cons_of_mem _ member)

theorem locate?_of_here (named : path ≠ "") (here : plainParts path = []) :
    tree.locate? path = follow? tree.top tree.directory "" := by
  rw [plainParts_eq, List.append_eq_nil_iff] at here
  have relative : isAbsolute path = false := by
    by_contra absolute
    rw [rootOf, if_pos (Bool.not_eq_false _ ▸ absolute)] at here
    cases here.1
  have nothing : ∀ piece ∈ pieces path, part? false piece = none := by
    rw [← filterMap_pieces, List.filterMap_eq_nil_iff] at here
    exact here.2
  rw [locate?_eq named, FileTree.start, relative, if_neg Bool.false_ne_true]
  by_cases isDirectory : ∃ entries, tree.top.find? tree.directory = some (.directory entries)
  · rcases isDirectory with ⟨entries, isDirectory⟩
    rw [foldlM_follow?_nothing isDirectory nothing, follow?_nothing isDirectory rfl]
  · rcases List.exists_cons_of_ne_nil (pieces_ne_nil path) with ⟨piece, rest, same⟩
    rw [same, List.foldlM_cons, follow?_eq_none isDirectory, follow?_eq_none isDirectory]
    rfl

theorem locate?_inside {piece : String} (named : path ≠ "") (apart : '/' ∉ piece.toList)
    (tidy : plainParts path = [] → piece ≠ "") :
    tree.locate? (inside path piece) =
      (tree.locate? path).bind fun names => follow? tree.top names piece := by
  by_cases here : plainParts path = []
  · have goesOn := bind_follow?_empty tree tree.directory piece []
    simp only [List.foldlM_cons, List.foldlM_nil, bind_pure] at goesOn
    rw [inside_of_here named here, locate?_of_here named here, goesOn, locate?_eq (tidy here),
      FileTree.start, isAbsolute_of_not_mem apart, if_neg Bool.false_ne_true,
      pieces_of_not_mem apart]
    exact bind_pure _
  · rw [inside_of_not_here named here, locate?_join (isAbsolute_of_not_mem apart) named,
      split_of_not_mem toList_slash apart]
    simp only [List.foldlM_cons, List.foldlM_nil, bind_pure]

end

/-! ## Several pieces -/

/-- Whether the first piece that is not a dot is not empty. An empty piece after dots is not found
where they lead. -/
def Tidy : List String → Prop
  | [] => True
  | piece :: rest => piece ≠ "" ∧ (piece = "." → Tidy rest)

theorem tidy_of_isName {more : List String} (isName : ∀ name ∈ more, IsName name) : Tidy more := by
  cases more with
  | nil => trivial
  | cons name rest =>
      have first := isName name List.mem_cons_self
      exact ⟨first.1, fun dot => absurd dot first.2.1⟩

section

variable {tree : FileTree} {path : String}

theorem Tidy.rest {piece : String} {rest : List String} (named : path ≠ "")
    (apart : '/' ∉ piece.toList) (tidy : plainParts path = [] → Tidy (piece :: rest)) :
    plainParts (inside path piece) = [] → Tidy rest := by
  intro here
  rw [plainParts_inside named apart, List.append_eq_nil_iff, Option.toList_eq_nil_iff] at here
  have own := tidy here.1
  rcases part?_eq_none_iff.mp here.2 with empty | dot
  · exact absurd empty own.1
  · exact own.2 dot

theorem plainParts_foldl_inside {pieces : List String} (named : path ≠ "")
    (apart : ∀ piece ∈ pieces, '/' ∉ piece.toList) (tidy : plainParts path = [] → Tidy pieces) :
    plainParts (pieces.foldl inside path) = plainParts path ++ pieces.filterMap (part? false) := by
  induction pieces generalizing path with
  | nil => exact (List.append_nil _).symm
  | cons piece rest induction =>
      have own := apart piece List.mem_cons_self
      have more := inside_ne_empty named own fun here => (tidy here).1
      have others := fun other member => apart other (List.mem_cons_of_mem piece member)
      rw [List.foldl_cons, induction more others (Tidy.rest named own tidy),
        plainParts_inside named own, List.append_assoc,
        List.filterMap_cons]
      cases part? false piece <;> rfl

theorem foldl_inside_ne_empty {more : List String} (named : path ≠ "")
    (areNames : ∀ name ∈ more, IsName name) : more.foldl inside path ≠ "" := by
  induction more generalizing path with
  | nil => exact named
  | cons name rest induction =>
      have isName := areNames name List.mem_cons_self
      exact induction (inside_ne_empty named isName.2.2.2 fun _ => isName.1) fun other member =>
        areNames other (List.mem_cons_of_mem _ member)

theorem locate?_foldl_inside {pieces : List String} (named : path ≠ "")
    (apart : ∀ piece ∈ pieces, '/' ∉ piece.toList) (tidy : plainParts path = [] → Tidy pieces) :
    tree.locate? (pieces.foldl inside path) =
      (tree.locate? path).bind fun names => pieces.foldlM (follow? tree.top) names := by
  induction pieces generalizing path with
  | nil =>
      rw [List.foldl_nil]
      cases tree.locate? path <;> rfl
  | cons piece rest induction =>
      have own := apart piece List.mem_cons_self
      have starts := fun here => (tidy here).1
      rw [List.foldl_cons, induction (inside_ne_empty named own starts)
        (fun other member => apart other (List.mem_cons_of_mem _ member))
        (Tidy.rest named own tidy), locate?_inside named own starts, Option.bind_assoc]
      rfl

end

/-! ## Entries below a place -/

/-- Whether a path leads to an entry, through the names given. -/
structure StandsAt (tree : FileTree) (path : String) (names : List String) (entry : Entry) :
    Prop where
  located : tree.locate? path = some names
  found : tree.top.find? names = some entry

namespace StandsAt

variable {tree : FileTree} {path : String} {names : List String} {entry : Entry}

theorem named (stands : StandsAt tree path names entry) : path ≠ "" :=
  ne_empty_of_locate? stands.located

theorem entry?_eq (stands : StandsAt tree path names entry) : tree.entry? path = some entry := by
  rw [entry?_def, stands.located]
  exact stands.found

theorem exists_of_entry? (found : tree.entry? path = some entry) :
    ∃ names, StandsAt tree path names entry := by
  rcases Option.bind_eq_some_iff.mp found with ⟨names, located, isEntry⟩
  exact ⟨names, located, isEntry⟩

theorem inside {piece : String} {next : List String} {inner : Entry}
    (stands : StandsAt tree path names entry) (apart : '/' ∉ piece.toList)
    (tidy : plainParts path = [] → piece ≠ "") (followed : follow? tree.top names piece = some next)
    (found : tree.top.find? next = some inner) :
    StandsAt tree (Glob.inside path piece) next inner := by
  refine ⟨?_, found⟩
  rw [locate?_inside stands.named apart tidy, stands.located]
  exact followed

theorem child {name : String} {inner : Entry} (stands : StandsAt tree path names entry)
    (legal : tree.IsLegal) (member : (name, inner) ∈ entry.entries) :
    StandsAt tree (Glob.inside path name) (names ++ [name]) inner := by
  rcases (legal.mem_entries_iff stands.found).mp member with ⟨isName, followed, found⟩
  exact stands.inside isName.2.2.2 (fun _ => isName.1) followed found

end StandsAt

section

variable {tree : FileTree} {path : String} {names : List String} {entry : Entry}

def Reaches (tree : FileTree) (path : String) (names pieces : List String) (place : Place) : Prop :=
  place.1 = pieces.foldl inside path ∧ Leads tree names pieces place.2

theorem reaches_append {front rest : List String} {place : Place} :
    Reaches tree path names (front ++ rest) place ↔
      ∃ between inner, front.foldlM (follow? tree.top) names = some between ∧
        tree.top.find? between = some inner ∧
        Reaches tree (front.foldl inside path) between rest place := by
  rw [Reaches, leads_append, List.foldl_append]
  constructor
  · rintro ⟨same, between, inner, along, found, leads⟩
    exact ⟨between, inner, along, found, same, leads⟩
  · rintro ⟨between, inner, along, found, same, leads⟩
    exact ⟨same, between, inner, along, found, leads⟩

def LeadsDown (tree : FileTree) (path : String) (names more : List String) (place : Place) : Prop :=
  (∀ name ∈ more, IsName name) ∧ Reaches tree path names more place

theorem LeadsDown.standsAt {more : List String} {place : Place}
    (leads : LeadsDown tree path names more place) (stands : StandsAt tree path names entry) :
    ∃ reached, more.foldlM (follow? tree.top) names = some reached ∧
      StandsAt tree place.1 reached place.2 := by
  rcases leads with ⟨areNames, same, reached, along, found⟩
  refine ⟨reached, along, ?_, found⟩
  rw [same, locate?_foldl_inside stands.named (fun name member => (areNames name member).2.2.2)
    fun _ => tidy_of_isName areNames, stands.located]
  exact along

theorem leadsDown_cons (legal : tree.IsLegal) (stands : StandsAt tree path names entry)
    {name : String} {more : List String} {place : Place} :
    LeadsDown tree path names (name :: more) place ↔
      ∃ inner, (name, inner) ∈ entry.entries ∧
        LeadsDown tree (inside path name) (names ++ [name]) more place := by
  rw [LeadsDown, Reaches, List.forall_mem_cons, leads_cons]
  constructor
  · rintro ⟨⟨isName, others⟩, same, between, inner, followed, found, leads⟩
    rcases directory_of_follow? followed with ⟨entries, isDirectory⟩
    rw [follow?_name isDirectory isName] at followed
    cases followed
    refine ⟨inner, ?_, others, same, leads⟩
    exact (legal.mem_entries_iff stands.found).mpr ⟨isName, follow?_name isDirectory isName, found⟩
  · rintro ⟨inner, member, others, same, leads⟩
    rcases (legal.mem_entries_iff stands.found).mp member with ⟨isName, followed, found⟩
    exact ⟨⟨isName, others⟩, same, _, inner, followed, found, leads⟩

theorem leadsDown_nil (stands : StandsAt tree path names entry) {place : Place} :
    LeadsDown tree path names [] place ↔ place = (path, entry) := by
  rw [LeadsDown, Reaches, leads_nil, stands.found, Option.some_inj]
  constructor
  · rintro ⟨-, same, rfl⟩
    exact Prod.ext same rfl
  · rintro rfl
    exact ⟨fun _ member => absurd member List.not_mem_nil, rfl, rfl⟩

mutual
theorem mem_placesBelow (legal : tree.IsLegal) : (entry : Entry) → ∀ {path : String}
    {names : List String}, StandsAt tree path names entry → ∀ place : Place,
    place ∈ entry.placesBelow inside path ↔
      ∃ more, more ≠ [] ∧ LeadsDown tree path names more place
  | .file content, path, names, stands, place => by
      constructor
      · rintro ⟨⟩
      · rintro ⟨more, nonempty, leads⟩
        rcases List.exists_cons_of_ne_nil nonempty with ⟨name, rest, rfl⟩
        rcases (leadsDown_cons legal stands).mp leads with ⟨inner, member, -⟩
        cases member
  | .directory entries, path, names, stands, place => by
      have each := mem_placesBelowAll legal entries
        (fun child member => stands.child legal member) place
      rw [Entry.placesBelow, each]
      constructor
      · rintro ⟨child, member, more, leads⟩
        exact ⟨child.1 :: more, List.cons_ne_nil _ _,
          (leadsDown_cons legal stands).mpr ⟨child.2, member, leads⟩⟩
      · rintro ⟨more, nonempty, leads⟩
        rcases List.exists_cons_of_ne_nil nonempty with ⟨name, rest, rfl⟩
        rcases (leadsDown_cons legal stands).mp leads with ⟨inner, member, others⟩
        exact ⟨(name, inner), member, rest, others⟩

theorem mem_placesBelowAll (legal : tree.IsLegal) : (entries : List (String × Entry)) →
    ∀ {path : String} {names : List String},
    (∀ child ∈ entries, StandsAt tree (inside path child.1) (names ++ [child.1]) child.2) →
    ∀ place : Place, place ∈ Entry.placesBelowAll inside path entries ↔
      ∃ child ∈ entries, ∃ more,
        LeadsDown tree (inside path child.1) (names ++ [child.1]) more place
  | [], path, names, stand, place => by
      constructor
      · rintro ⟨⟩
      · rintro ⟨child, member, -⟩
        cases member
  | (name, inner) :: rest, path, names, stand, place => by
      have first := stand (name, inner) List.mem_cons_self
      have below := mem_placesBelow legal inner first place
      have others := mem_placesBelowAll legal rest
        (fun child member => stand child (List.mem_cons_of_mem _ member)) place
      rw [Entry.placesBelowAll, List.cons_append, List.mem_cons, List.mem_append, below, others]
      constructor
      · rintro (same | ⟨more, -, leads⟩ | ⟨child, member, more, leads⟩)
        · exact ⟨_, List.mem_cons_self, [], (leadsDown_nil first).mpr same⟩
        · exact ⟨_, List.mem_cons_self, more, leads⟩
        · exact ⟨child, List.mem_cons_of_mem _ member, more, leads⟩
      · rintro ⟨child, member, more, leads⟩
        rcases List.mem_cons.mp member with rfl | member
        · by_cases empty : more = []
          · rw [empty] at leads
            exact .inl ((leadsDown_nil first).mp leads)
          · exact .inr (.inl ⟨more, empty, leads⟩)
        · exact .inr (.inr ⟨child, member, more, leads⟩)
end

end

end Glob

end LiterateTest
