import LiterateTest.Document.Expansion
import LiterateTest.Proofs.Each
import LiterateTest.Proofs.File.Path
import Mathlib.Data.List.Nodup

/-! The template variables of the files that a document is expanded over: when the variable `file`
leads back to the file, and when the names of the copies tell the files apart. -/

namespace LiterateTest

open LiterateTest.Path

/-! ## Slashes for backslashes -/

theorem toList_withSlashes (path : String) :
    (withSlashes path).toList = path.toList.map fun c => if c = '\\' then '/' else c :=
  Text.replace_single rfl rfl path

theorem withSlashes_of_absent {path : String} (absent : '\\' ∉ path.toList) :
    withSlashes path = path := by
  have same : ∀ c ∈ path.toList, (if c = '\\' then '/' else c) = c := by
    intro c member
    rw [if_neg]
    rintro rfl
    exact absent member
  rw [← String.toList_inj, toList_withSlashes, List.map_congr_left same, List.map_id']

theorem not_mem_withSlashes (path : String) : '\\' ∉ (withSlashes path).toList := by
  rw [toList_withSlashes, List.mem_map]
  rintro ⟨c, -, same⟩
  split at same
  · cases same
  · next other => exact other same

def HasBackslash (parts : List PathPart) : Prop := ∃ part ∈ parts, '\\' ∈ part.text.toList

theorem hasBackslash_plainParts_iff {path : String} :
    HasBackslash (plainParts path) ↔ '\\' ∈ path.toList := by
  rw [plainParts_eq]
  constructor
  · rintro ⟨part, member, inside⟩
    rcases List.mem_append.mp member with root | member
    · rw [rootOf] at root
      split at root
      · rw [List.mem_singleton.mp root] at inside
        cases List.mem_singleton.mp inside
      · cases root
    · exact mem_of_mem_plainPieces member inside
  · intro inside
    rcases exists_part_of_mem inside (by decide) (by decide) with ⟨part, member, inPart⟩
    exact ⟨part, List.mem_append_right _ member, inPart⟩

theorem not_samePath_join_withSlashes {base path relative : String}
    (whole : plainParts path = plainParts base ++ plainParts relative)
    (backslash : '\\' ∈ relative.toList) : ¬SamePath (join base (withSlashes relative)) path := by
  intro same
  have lost : ¬HasBackslash (plainParts (withSlashes relative)) := fun found =>
    not_mem_withSlashes relative (hasBackslash_plainParts_iff.mp found)
  have kept : HasBackslash (plainParts relative) := hasBackslash_plainParts_iff.mpr backslash
  cases absolute : isAbsolute (withSlashes relative) with
  | false =>
      rw [SamePath, plainParts_join absolute, whole] at same
      exact lost (List.append_cancel_left same ▸ kept)
  | true =>
      rw [SamePath, join, if_pos absolute, whole] at same
      rcases kept with ⟨part, member, inside⟩
      exact lost ⟨part, same ▸ List.mem_append_right _ member, inside⟩

/-! ## The file variable -/

def relativePath (directory path : String) : String := (relativeTo? directory path).getD path

/-- Whether a path begins with a directory as this is written, if it is written at all. -/
def IsWrittenUnder (directory path : String) : Prop :=
  parts directory <+: parts path ∨ plainParts directory = []

theorem plainParts_relativePath {directory path : String} (written : IsWrittenUnder directory path) :
    plainParts path = plainParts directory ++ plainParts (relativePath directory path) := by
  cases found : relativeTo? directory path with
  | some relative =>
      rw [relativePath, found]
      exact (plainParts_of_relativeTo? found).1
  | none =>
      rcases written with starts | nowhere
      · have isSome := relativeTo?_isSome_iff.mpr starts
        rw [found] at isSome
        cases isSome
      · rw [relativePath, found, nowhere]
        rfl

theorem samePath_join_self {directory path : String} (nowhere : plainParts directory = []) :
    SamePath (join directory path) path := by
  cases absolute : isAbsolute path with
  | false => rw [SamePath, plainParts_join absolute, nowhere, List.nil_append]
  | true =>
      rw [join, if_pos absolute]
      rfl

theorem samePath_join_relativePath {directory path : String}
    (written : IsWrittenUnder directory path) :
    SamePath (join directory (relativePath directory path)) path := by
  cases found : relativeTo? directory path with
  | some relative =>
      rw [relativePath, found]
      exact samePath_join_of_relativeTo? found
  | none =>
      rcases written with starts | nowhere
      · have isSome := relativeTo?_isSome_iff.mpr starts
        rw [found] at isSome
        cases isSome
      · rw [relativePath, found]
        exact samePath_join_self nowhere

/-- Where the path begins with the directory, the variable leads back to the file unless a name
below the directory has a backslash. -/
theorem samePath_join_iff_of_written {directory path : String}
    (written : IsWrittenUnder directory path) :
    SamePath (join directory (withSlashes (relativePath directory path))) path ↔
      '\\' ∉ (relativePath directory path).toList := by
  constructor
  · intro same backslash
    exact not_samePath_join_withSlashes (plainParts_relativePath written) backslash same
  · intro absent
    rw [withSlashes_of_absent absent]
    exact samePath_join_relativePath written

theorem samePath_join_iff_of_absent {directory path : String}
    (under : plainParts directory <+: plainParts path)
    (absent : '\\' ∉ (relativePath directory path).toList) :
    SamePath (join directory (withSlashes (relativePath directory path))) path ↔
      IsWrittenUnder directory path := by
  refine ⟨fun same => ?_, fun written => (samePath_join_iff_of_written written).mpr absent⟩
  cases found : relativeTo? directory path with
  | some relative => exact .inl (relativeTo?_isSome_iff.mp (by rw [found]; rfl))
  | none =>
      rw [withSlashes_of_absent absent, relativePath, found, Option.getD_none] at same
      cases absolute : isAbsolute path with
      | false =>
          rw [SamePath, plainParts_join absolute] at same
          exact .inr (List.append_left_eq_self.mp same)
      | true =>
          cases isDirectory : plainParts directory with
          | nil => exact .inr isDirectory
          | cons part others =>
              rw [plainParts_eq path, rootOf, if_pos absolute, isDirectory, List.singleton_append,
                List.cons_prefix_cons] at under
              rw [under.1] at isDirectory
              refine .inl ?_
              rw [parts_of_absolute (isAbsolute_of_root isDirectory), parts_of_absolute absolute,
                plainParts_eq path, rootOf, if_pos absolute, isDirectory]
              exact (List.prefix_cons_inj _).mpr under.2

/-! ## Names of copies -/

theorem exists_fileVariables (tree : FileTree) {path : String} (named : path ≠ "")
    (directory : String) : ∃ vars, fileVariables tree path directory = .ok vars ∧
      Record.get? "file" vars = some (withSlashes (relativePath directory path)) := by
  rw [fileVariables]
  cases found : absolute? tree.directoryPath path with
  | none =>
      rw [absolute?, if_neg named] at found
      cases found
  | some absolute => exact ⟨_, rfl, rfl⟩

def Fixture.labelled (fixture : Fixture) (file : String) : String :=
  fixture.name ++ " [" ++ file ++ "]"

theorem Fixture.labelled_injective (fixture : Fixture) : Function.Injective fixture.labelled := by
  intro one other same
  rw [labelled, labelled, String.append_left_inj, String.append_right_inj] at same
  exact same

theorem Fixture.map_name_withFile {paths : List String} {files : List (Record String)}
    {variableOf : String → String}
    (described : List.Forall₂ (fun path vars => Record.get? "file" vars = some (variableOf path))
      paths files) (fixture : Fixture) :
    (files.map fixture.withFile).map Fixture.name =
      (paths.map variableOf).map fixture.labelled := by
  induction described with
  | nil => rfl
  | cons isFile others induction =>
      rw [List.map_cons, List.map_cons, List.map_cons, List.map_cons, induction, withFile, isFile]
      rfl

theorem Fixture.nodup_names_iff {paths : List String} {files : List (Record String)}
    {variableOf : String → String}
    (described : List.Forall₂ (fun path vars => Record.get? "file" vars = some (variableOf path))
      paths files) (fixture : Fixture) :
    ((fixture.expand files).map Fixture.name).Nodup ↔ (paths.map variableOf).Nodup := by
  cases described with
  | nil => simp [expand]
  | cons isFile others =>
      rw [expand, List.isEmpty_cons, if_neg Bool.false_ne_true,
        map_name_withFile (.cons isFile others), List.nodup_map_iff fixture.labelled_injective]

theorem samePath_of_relativePath {directory left right : String}
    (alike : parts directory <+: parts left ↔ parts directory <+: parts right)
    (same : relativePath directory left = relativePath directory right) : SamePath left right := by
  by_cases begins : parts directory <+: parts left
  · rw [SamePath, plainParts_relativePath (.inl begins),
      plainParts_relativePath (.inl (alike.mp begins)), same]
  · have notBegins : ¬parts directory <+: parts right := fun other => begins (alike.mpr other)
    rw [← relativeTo?_isSome_iff, Option.not_isSome_iff_eq_none] at begins notBegins
    rw [relativePath, relativePath, begins, notBegins] at same
    cases same
    rfl

structure DescribesFile (directory path : String) (vars : Record String) : Prop where
  file : Record.get? "file" vars = some (withSlashes (relativePath directory path))
  /-- If the path begins with the directory as this is written, the variable leads back to the file
  unless a name below the directory has a backslash. -/
  written : IsWrittenUnder directory path →
    (SamePath (join directory (withSlashes (relativePath directory path))) path ↔
      '\\' ∉ (relativePath directory path).toList)
  /-- If no name has a backslash, the variable leads back to the file if the path begins with the
  directory as this is written. -/
  plain : '\\' ∉ (relativePath directory path).toList →
    (SamePath (join directory (withSlashes (relativePath directory path))) path ↔
      IsWrittenUnder directory path)

/-- The variables of any files under a directory lead back to them, and the copies of a fixture have
different names, as far as no name has a backslash and all paths, or none of them, begin with the
directory as it is written. -/
theorem fileVariables_identify (tree : FileTree) {directory : String} {paths : List String}
    (named : ∀ path ∈ paths, path ≠ "")
    (under : ∀ path ∈ paths, plainParts directory <+: plainParts path)
    (different : paths.Pairwise fun left right => ¬SamePath left right) :
    ∃ files, paths.mapM (fun path => fileVariables tree path directory) = .ok files ∧
      List.Forall₂ (DescribesFile directory) paths files ∧
      ∀ fixture : Fixture,
        (((fixture.expand files).map Fixture.name).Nodup ↔
          (paths.map fun path => withSlashes (relativePath directory path)).Nodup) ∧
        ((∀ path ∈ paths, '\\' ∉ (relativePath directory path).toList) →
          (∀ left ∈ paths, ∀ right ∈ paths,
            parts directory <+: parts left → parts directory <+: parts right) →
          ((fixture.expand files).map Fixture.name).Nodup) := by
  have each : ∀ path ∈ paths, ∃ vars, fileVariables tree path directory = .ok vars ∧
      DescribesFile directory path vars := by
    intro path member
    rcases exists_fileVariables tree (named path member) directory with ⟨vars, found, file⟩
    exact ⟨vars, found, file, samePath_join_iff_of_written,
      samePath_join_iff_of_absent (under path member)⟩
  rcases exists_mapM each with ⟨files, found, described⟩
  refine ⟨files, found, described, fun fixture => ?_⟩
  have exact := Fixture.nodup_names_iff (described.imp fun _ _ holds => holds.file) fixture
  refine ⟨exact, fun absent alike => exact.mpr ?_⟩
  rw [List.Nodup, List.pairwise_map]
  refine different.imp_of_mem fun {left right} isLeft isRight apart same => apart ?_
  rw [withSlashes_of_absent (absent left isLeft),
    withSlashes_of_absent (absent right isRight)] at same
  exact samePath_of_relativePath ⟨alike left isLeft right isRight, alike right isRight left isLeft⟩
    same

theorem fileVariables_identify_of_nested :
    (∀ path ∈ ["/r/a.txt", "/r/é/a.txt"], path ≠ "") ∧
    (∀ path ∈ ["/r/a.txt", "/r/é/a.txt"], plainParts "/r/" <+: plainParts path) ∧
    ["/r/a.txt", "/r/é/a.txt"].Pairwise (fun left right => ¬SamePath left right) ∧
    SamePath (join "/r/" (withSlashes (relativePath "/r/" "/r/é/a.txt"))) "/r/é/a.txt" ∧
    ∃ files, ["/r/a.txt", "/r/é/a.txt"].mapM (fun path => fileVariables {} path "/r/") = .ok files ∧
      ∀ fixture : Fixture, ((fixture.expand files).map Fixture.name).Nodup := by
  have named : ∀ path ∈ ["/r/a.txt", "/r/é/a.txt"], path ≠ "" := by decide
  have under : ∀ path ∈ ["/r/a.txt", "/r/é/a.txt"], plainParts "/r/" <+: plainParts path := by decide
  have different : ["/r/a.txt", "/r/é/a.txt"].Pairwise fun left right => ¬SamePath left right := by
    decide +kernel
  rcases fileVariables_identify {} named under different with ⟨files, found, described, names⟩
  refine ⟨named, under, different, ?_, files, found, fun fixture => ?_⟩
  · rcases List.forall₂_cons_left_iff.mp described with ⟨_, _, -, others, -⟩
    rcases List.forall₂_cons_left_iff.mp others with ⟨_, _, second, -, -⟩
    exact (second.written (.inl (by decide))).mpr (by decide)
  · exact (names fixture).2 (by decide) (by decide)

/-- A name with a backslash is taken for two names, so that two copies have one name, and a directory
that begins with a dot is not taken off a path that the search gives without this dot. -/
theorem fileVariables_identify_exceptions :
    (∃ vars, fileVariables {} "/r/a\\b.txt" "/r" = .ok vars ∧
      Record.get? "file" vars = some "a/b.txt" ∧
      ¬SamePath (join "/r" "a/b.txt") "/r/a\\b.txt") ∧
    (¬SamePath "/r/a/b.txt" "/r/a\\b.txt" ∧
      ∃ files, ["/r/a/b.txt", "/r/a\\b.txt"].mapM (fun path => fileVariables {} path "/r") =
          .ok files ∧
        ∀ fixture : Fixture, ¬((fixture.expand files).map Fixture.name).Nodup) ∧
    (∃ vars, fileVariables {} "data/a.json" "./data" = .ok vars ∧
      Record.get? "file" vars = some "data/a.json" ∧
      ¬SamePath (join "./data" "data/a.json") "data/a.json") := by
  have named : ∀ path ∈ ["/r/a/b.txt", "/r/a\\b.txt"], path ≠ "" := by decide
  rcases exists_mapM fun path member => exists_fileVariables {} (named path member) "/r" with
    ⟨files, found, described⟩
  have twice : ¬(["/r/a/b.txt", "/r/a\\b.txt"].map fun path =>
      withSlashes (relativePath "/r" path)).Nodup := by decide +kernel
  have backslash : withSlashes (relativePath "/r" "/r/a\\b.txt") = "a/b.txt" := by decide +kernel
  have dot : withSlashes (relativePath "./data" "data/a.json") = "data/a.json" := by decide +kernel
  refine ⟨?_, ⟨by decide +kernel, files, found, fun fixture names => ?_⟩, ?_⟩
  · rcases exists_fileVariables {} (named "/r/a\\b.txt" (by decide)) "/r" with ⟨vars, own, file⟩
    exact ⟨vars, own, file.trans (congrArg some backslash), by decide +kernel⟩
  · exact twice ((Fixture.nodup_names_iff described fixture).mp names)
  · rcases exists_fileVariables {} (by decide : "data/a.json" ≠ "") "./data" with ⟨vars, own, file⟩
    exact ⟨vars, own, file.trans (congrArg some dot), by decide +kernel⟩

end LiterateTest
