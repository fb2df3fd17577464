import LiterateTest.File.Tree
import LiterateTest.Proofs.File.Path
import LiterateTest.Proofs.Record

/-! Places in a tree of files: where a path leads, name by name. -/

namespace LiterateTest

open Text

def IsName (name : String) : Prop := name ≠ "" ∧ name ≠ "." ∧ name ≠ ".." ∧ '/' ∉ name.toList

instance (name : String) : Decidable (IsName name) :=
  inferInstanceAs (Decidable (name ≠ "" ∧ name ≠ "." ∧ name ≠ ".." ∧ '/' ∉ name.toList))

namespace FileTree

def IsLegal (tree : FileTree) : Prop :=
  ∀ names entries, tree.top.find? names = some (.directory entries) →
    (Record.keys entries).Nodup ∧ ∀ name ∈ Record.keys entries, IsName name

/-! ## Single steps -/

section

variable {top : Entry} {names : List String}

theorem directory_of_follow? {piece : String} {next : List String}
    (found : follow? top names piece = some next) :
    ∃ entries, top.find? names = some (.directory entries) := by
  rw [follow?] at found
  split at found
  · next entries isDirectory => exact ⟨entries, isDirectory⟩
  · cases found

theorem follow?_eq_none {piece : String}
    (nowhere : ¬∃ entries, top.find? names = some (.directory entries)) :
    follow? top names piece = none :=
  Option.eq_none_iff_forall_ne_some.mpr fun _ found => nowhere (directory_of_follow? found)

theorem follow?_nothing {entries : List (String × Entry)} {piece : String}
    (isDirectory : top.find? names = some (.directory entries))
    (nothing : Path.part? false piece = none) : follow? top names piece = some names := by
  rw [follow?, isDirectory]
  rcases Path.part?_eq_none_iff.mp nothing with rfl | rfl <;> rfl

theorem follow?_name {entries : List (String × Entry)} {name : String}
    (isDirectory : top.find? names = some (.directory entries)) (isName : IsName name) :
    follow? top names name = some (names ++ [name]) := by
  rcases isName with ⟨named, noDot, noDots, -⟩
  rw [follow?, isDirectory]
  simp [named, noDot, noDots]

theorem find?_append (entry : Entry) (front rest : List String) :
    entry.find? (front ++ rest) = (entry.find? front).bind (Entry.find? rest) := by
  induction front generalizing entry with
  | nil => rfl
  | cons name front induction =>
      rw [List.cons_append, Entry.find?, Entry.find?]
      cases Record.get? name entry.entries with
      | none => rfl
      | some inner => exact induction inner

end

theorem exists_directory_dropLast {top : Entry} {names : List String}
    {entries : List (String × Entry)} (isDirectory : top.find? names = some (.directory entries)) :
    ∃ others, top.find? names.dropLast = some (.directory others) := by
  rcases names.eq_nil_or_concat with rfl | ⟨front, last, rfl⟩
  · exact ⟨entries, isDirectory⟩
  · rw [List.concat_eq_append, find?_append] at isDirectory
    rcases Option.bind_eq_some_iff.mp isDirectory with ⟨outer, isOuter, inside⟩
    rw [List.concat_eq_append, List.dropLast_concat, isOuter]
    cases outer with
    | file content => cases inside
    | directory others => exact ⟨others, rfl⟩

/-! ## Where names lead -/

/-- Whether the pieces of a path lead to an entry, for one who is at a place. -/
def Leads (tree : FileTree) (start pieces : List String) (found : Entry) : Prop :=
  ∃ reached, pieces.foldlM (follow? tree.top) start = some reached ∧
    tree.top.find? reached = some found

section

variable {tree : FileTree} {start : List String} {found : Entry}

theorem leads_nil : Leads tree start [] found ↔ tree.top.find? start = some found := by
  constructor
  · rintro ⟨reached, same, isFound⟩
    cases same
    exact isFound
  · exact fun isFound => ⟨start, rfl, isFound⟩

theorem leads_append {front rest : List String} :
    Leads tree start (front ++ rest) found ↔
      ∃ between entry, front.foldlM (follow? tree.top) start = some between ∧
        tree.top.find? between = some entry ∧ Leads tree between rest found := by
  constructor
  · rintro ⟨reached, along, isFound⟩
    rw [List.foldlM_append] at along
    rcases Option.bind_eq_some_iff.mp along with ⟨between, before, after⟩
    have exists_entry : ∃ entry, tree.top.find? between = some entry := by
      cases rest with
      | nil =>
          cases after
          exact ⟨found, isFound⟩
      | cons piece rest =>
          rw [List.foldlM_cons] at after
          rcases Option.bind_eq_some_iff.mp after with ⟨next, first, -⟩
          rcases directory_of_follow? first with ⟨entries, isDirectory⟩
          exact ⟨_, isDirectory⟩
    rcases exists_entry with ⟨entry, isEntry⟩
    exact ⟨between, entry, before, isEntry, reached, after, isFound⟩
  · rintro ⟨between, entry, before, isEntry, reached, after, isFound⟩
    refine ⟨reached, ?_, isFound⟩
    rw [List.foldlM_append, before]
    exact after

theorem leads_cons {piece : String} {rest : List String} :
    Leads tree start (piece :: rest) found ↔
      ∃ between entry, follow? tree.top start piece = some between ∧
        tree.top.find? between = some entry ∧ Leads tree between rest found := by
  rw [← List.singleton_append, leads_append]
  simp only [List.foldlM_cons, List.foldlM_nil, bind_pure]

theorem Leads.isDirectory {pieces : List String} {entry : Entry}
    (leads : Leads tree start pieces found) (more : pieces ≠ [])
    (isEntry : tree.top.find? start = some entry) : entry.isDirectory = true := by
  rcases List.exists_cons_of_ne_nil more with ⟨piece, rest, rfl⟩
  rcases leads_cons.mp leads with ⟨between, inner, first, -⟩
  rcases directory_of_follow? first with ⟨entries, isDirectory⟩
  rw [isDirectory] at isEntry
  cases isEntry
  rfl

theorem IsLegal.mem_entries_iff (legal : tree.IsLegal) {entry inner : Entry} {name : String}
    (isEntry : tree.top.find? start = some entry) :
    (name, inner) ∈ entry.entries ↔
      IsName name ∧ follow? tree.top start name = some (start ++ [name]) ∧
        tree.top.find? (start ++ [name]) = some inner := by
  cases entry with
  | file content =>
      constructor
      · rintro ⟨⟩
      · rintro ⟨-, first, -⟩
        rcases directory_of_follow? first with ⟨entries, isDirectory⟩
        rw [isDirectory] at isEntry
        cases isEntry
  | directory entries =>
      rcases legal start entries isEntry with ⟨distinct, names⟩
      have lookUp : tree.top.find? (start ++ [name]) = Record.get? name entries := by
        rw [find?_append, isEntry]
        change (Record.get? name entries).bind (Entry.find? []) = _
        cases Record.get? name entries <;> rfl
      rw [lookUp]
      constructor
      · intro member
        have isName : IsName name := names name (List.mem_map_of_mem member)
        exact ⟨isName, follow?_name isEntry isName, Record.get?_of_mem_of_nodup distinct member⟩
      · rintro ⟨-, -, isInner⟩
        exact Record.mem_of_get? isInner

end

/-! ## Paths -/

def start (tree : FileTree) (path : String) : List String :=
  if Path.isAbsolute path then [] else tree.directory

variable {tree : FileTree}

theorem entry?_def (tree : FileTree) (path : String) :
    tree.entry? path = (tree.locate? path).bind tree.top.find? := rfl

theorem locate?_eq {path : String} (named : path ≠ "") :
    tree.locate? path = (Path.pieces path).foldlM (follow? tree.top) (tree.start path) := by
  rw [locate?, if_neg named, start]

theorem bind_follow?_empty (tree : FileTree) (names : List String) (piece : String)
    (rest : List String) :
    (follow? tree.top names "").bind (fun next => (piece :: rest).foldlM (follow? tree.top) next) =
      (piece :: rest).foldlM (follow? tree.top) names := by
  by_cases isDirectory : ∃ entries, tree.top.find? names = some (.directory entries)
  · rcases isDirectory with ⟨entries, isDirectory⟩
    rw [follow?_nothing isDirectory rfl]
    rfl
  · rw [List.foldlM_cons, follow?_eq_none isDirectory, follow?_eq_none isDirectory]
    rfl

theorem locate?_join {base path : String} (relative : Path.isAbsolute path = false)
    (named : base ≠ "") : tree.locate? (Path.join base path) =
      (tree.locate? base).bind fun names => (split path "/").foldlM (follow? tree.top) names := by
  have joined : Path.join base path ≠ "" := by
    rcases Path.join_cases relative base with ⟨empty, -⟩ | ⟨front, -, same⟩ | ⟨-, -, same⟩
    · exact absurd empty named
    · rw [same]
      exact Path.append_slash_ne_empty front path
    · rw [same]
      exact Path.append_slash_ne_empty base path
  have sameStart : tree.start (Path.join base path) = tree.start base := by
    rw [start, start, Path.isAbsolute_join relative]
  rw [locate?_eq joined, locate?_eq named, sameStart, Path.pieces_join relative]
  rcases Path.pieces_eq_lead named with whole | whole
  · rw [whole, List.foldlM_append]
    rfl
  · rcases List.exists_cons_of_ne_nil (split_ne_nil Path.toList_slash path) with ⟨piece, rest, same⟩
    rw [whole, List.foldlM_append, List.foldlM_append, same]
    cases (Path.lead base).foldlM (follow? tree.top) (tree.start base) with
    | none => rfl
    | some names =>
        change (piece :: rest).foldlM (follow? tree.top) names =
          ((follow? tree.top names "").bind pure).bind _
        rw [Option.bind_assoc]
        exact (bind_follow?_empty tree names piece rest).symm

end FileTree

end LiterateTest
