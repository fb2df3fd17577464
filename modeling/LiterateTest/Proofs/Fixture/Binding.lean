import LiterateTest.Fixture.Verdict
import LiterateTest.Proofs.Record

/-! What names stand for in the expressions of a fixture. Several sources give names to values, and
there is a fixed order in which they win, so that no name of an author hides what the output is. -/

namespace LiterateTest

/-! ## Lists and maps in outputs -/

namespace Json

def isContainer : Json → Bool
  | list _ | map _ => true
  | _ => false

theorem isContainer_of_readItemsRest {value : Reader Json} {steps : Nat} {read : List Json}
    {text rest : List Char} {result : Json}
    (ok : readItemsRest value steps read text = some (result, rest)) :
    result.isContainer = true := by
  induction steps generalizing read text with
  | zero => cases ok
  | succ steps induction =>
      rw [readItemsRest] at ok
      rcases Option.bind_eq_some_iff.mp ok with ⟨⟨item, afterItem⟩, -, afterRead⟩
      dsimp only at afterRead
      split at afterRead
      · exact induction afterRead
      · cases afterRead
        rfl
      · cases afterRead

theorem isContainer_of_readEntriesRest {value : Reader Json} {steps : Nat} {read : Record Json}
    {text rest : List Char} {result : Json}
    (ok : readEntriesRest value steps read text = some (result, rest)) :
    result.isContainer = true := by
  induction steps generalizing read text with
  | zero => cases ok
  | succ steps induction =>
      rw [readEntriesRest] at ok
      split at ok
      · rcases Option.bind_eq_some_iff.mp ok with ⟨⟨key, afterKey⟩, -, afterRead⟩
        dsimp only at afterRead
        split at afterRead
        · rcases Option.bind_eq_some_iff.mp afterRead with ⟨⟨item, afterItem⟩, -, afterColon⟩
          dsimp only at afterColon
          split at afterColon
          · exact induction afterColon
          · cases afterColon
            rfl
          · cases afterColon
        · cases afterRead
      · cases ok

theorem eq_of_readWord {word : String} {value result : Json} {text rest : List Char}
    (ok : readWord word value text = some (result, rest)) : result = value := by
  rcases Option.map_eq_some_iff.mp ok with ⟨after, -, same⟩
  cases same
  rfl

theorem isContainer_of_readValue {depth : Nat} {c : Char} {text rest : List Char} {result : Json}
    (visible : isSpace c = false) (ok : readValue depth (c :: text) = some (result, rest)) :
    result.isContainer = (c == '\x7b' || c == '[') := by
  have noSpace : skipSpace (c :: text) = c :: text := by
    rw [skipSpace, List.dropWhile_cons, if_neg (by simp [visible])]
  rw [readValue, noSpace] at ok
  split at ok
  · next empty => cases empty
  · next same =>
      cases same
      rw [eq_of_readWord ok]
      rfl
  · next same =>
      cases same
      rw [eq_of_readWord ok]
      rfl
  · next same =>
      cases same
      rw [eq_of_readWord ok]
      rfl
  · next same =>
      cases same
      rcases Option.map_eq_some_iff.mp ok with ⟨⟨read, after⟩, -, isString⟩
      cases isString
      rfl
  · next same =>
      cases same
      split at ok
      · cases ok
      · split at ok
        · cases ok
          rfl
        · exact isContainer_of_readItemsRest ok
  · next same =>
      cases same
      split at ok
      · cases ok
      · split at ok
        · cases ok
          rfl
        · exact isContainer_of_readEntriesRest ok
  · next noWord noTrue noFalse noString noList noMap =>
      rcases Option.map_eq_some_iff.mp ok with ⟨⟨number, after⟩, -, isNumber⟩
      cases isNumber
      have notMap : c ≠ '\x7b' := by
        rintro rfl
        exact noMap _ rfl
      have notList : c ≠ '[' := by
        rintro rfl
        exact noList _ rfl
      rw [beq_eq_false_iff_ne.mpr notMap, beq_eq_false_iff_ne.mpr notList]
      rfl

theorem isSpace_of_isBlank {c : Char} (visible : Text.isBlank c = false) : isSpace c = false := by
  by_contra space
  rw [Bool.not_eq_false, isSpace] at space
  simp only [Bool.or_eq_true, beq_iff_eq] at space
  rcases space with ((rfl | rfl) | rfl) | rfl <;> cases visible

theorem readLike?_eq (text : String) :
    readLike? text = (read? (Text.trimStart text)).filter isContainer := by
  rw [readLike?, Text.firstChar?]
  cases start : (Text.trimStart text).toList with
  | nil =>
      have empty : read? (Text.trimStart text) = none := by
        rw [read?, start]
        rfl
      rw [empty]
      rfl
  | cons c rest =>
      have visible : Text.isBlank c = false := by
        rw [Text.trimStart, String.toList_ofList] at start
        have nonempty : text.toList.dropWhile Text.isBlank ≠ [] := by simp [start]
        have first := List.head_dropWhile_not Text.isBlank nonempty
        simpa only [start, List.head_cons] using first
      rw [List.head?_cons]
      cases found : read? (Text.trimStart text) with
      | none => split <;> rfl
      | some value =>
          have opens : value.isContainer = (c == '\x7b' || c == '[') := by
            rw [read?, start] at found
            rcases Option.bind_eq_some_iff.mp found with ⟨⟨result, after⟩, ok, whole⟩
            dsimp only at whole
            split at whole <;> cases whole
            exact isContainer_of_readValue (isSpace_of_isBlank visible) ok
          rw [Option.filter_some, opens]
          -- Both sides look at the first character now.
          split
          · next same => cases same; rfl
          · next same => cases same; rfl
          · next notMap notList =>
              have notOpen : ¬(c == '\x7b' || c == '[') = true := by
                rw [Bool.or_eq_true, beq_iff_eq, beq_iff_eq]
                rintro (rfl | rfl)
                · exact notMap rfl
                · exact notList rfl
              rw [if_neg notOpen]

end Json

/-! ## Sources of names -/

def ProcessOutput.standard? (actual : ProcessOutput) : String → Option Json
  | "output" => some (.string (actual.stdout ++ actual.stderr))
  | "stdout" => some (.string actual.stdout)
  | "stderr" => some (.string actual.stderr)
  | "exitCode" => some (Expression.ofInteger actual.exitCode)
  | "json" => (Json.read? (Text.trimStart actual.stdout)).filter Json.isContainer
  | _ => none

def ProcessOutput.file? (actual : ProcessOutput) (name : String) : Option TempFile :=
  actual.tempFiles.reverse.find? fun file => file.name == name

def Fixture.own? (fixture : Fixture) : String → Option Json
  | "name" => some (.string fixture.name)
  | "exec" => some (.string fixture.exec)
  | "args" => some (.list (fixture.args.map .string))
  | "cwd" => some (.string fixture.cwd)
  | "env" => some (.ofStrings fixture.env)
  | "query" => if fixture.hasQuery then some (.string fixture.query) else none
  | "count" => fixture.expected.count.map Expression.ofInteger
  | "format" =>
      if fixture.expected.format.isEmpty then none else some (.string fixture.expected.format)
  | "error" =>
      if fixture.expected.error.isEmpty then none else some (.string fixture.expected.error)
  | _ => none

section

open Record

theorem get?_reverse_toList {α : Type} (name found : String) (value : Option α)
    (transform : α → Json) :
    get? name (value.map fun value => (found, transform value)).toList.reverse =
      if found = name then value.map transform else none := by
  cases value <;> simp [get?]

theorem get?_reverse_ite (name : String) (condition : Prop) [Decidable condition]
    (first second : List (String × Json)) :
    get? name (if condition then first else second).reverse =
      if condition then get? name first.reverse else get? name second.reverse := by
  split <;> rfl

theorem get?_ownFields (fixture : Fixture) (name : String) :
    get? name fixture.ownFields.reverse = fixture.own? name := by
  rw [Fixture.own?.eq_def]
  -- A name of the table is found where it stands there, and any other name nowhere.
  split
  case h_10 noName noExec noArgs noCwd noEnv noQuery noCount noFormat noError =>
    simp [Fixture.ownFields, get?_append, get?_reverse_toList, get?_reverse_ite, get?,
      Ne.symm noName, Ne.symm noExec, Ne.symm noArgs, Ne.symm noCwd, Ne.symm noEnv,
      Ne.symm noQuery, Ne.symm noCount, Ne.symm noFormat, Ne.symm noError]
  all_goals simp [Fixture.ownFields, get?_append, get?_reverse_toList, get?_reverse_ite, get?]

theorem get?_standardFields (actual : ProcessOutput) (name : String) :
    get? name actual.standardFields.reverse = actual.standard? name := by
  have fields : get? name actual.standardFields.reverse =
      (if "json" = name then Json.readLike? actual.stdout else none).or
        (get? name [("exitCode", Expression.ofInteger actual.exitCode),
          ("stderr", .string actual.stderr), ("stdout", .string actual.stdout),
          ("output", .string (actual.stdout ++ actual.stderr))]) := by
    rw [ProcessOutput.standardFields, List.reverse_append, get?_append, get?_reverse_toList,
      Option.map_id']
    rfl
  rw [ProcessOutput.standard?.eq_def]
  split
  case h_6 noOutput noStdout noStderr noExitCode noJson =>
    simp [fields, get?, Ne.symm noOutput, Ne.symm noStdout, Ne.symm noStderr,
      Ne.symm noExitCode, Ne.symm noJson]
  all_goals simp [fields, get?, Json.readLike?_eq]

theorem get?_fileFields (actual : ProcessOutput) (name : String) :
    get? name actual.fileFields.reverse = (actual.file? name).map TempFile.binding := by
  rw [ProcessOutput.fileFields, ← List.map_reverse, ProcessOutput.file?]
  induction actual.tempFiles.reverse with
  | nil => rfl
  | cons file rest induction =>
      rw [List.map_cons, get?, induction]
      by_cases same : file.name = name
      · rw [if_pos same, List.find?_cons_of_pos (by simpa using same)]
        rfl
      · rw [if_neg same, List.find?_cons_of_neg (by simpa using same)]

theorem get?_textFields {entries : Record String} (sorted : entries.keys.Pairwise (· < ·))
    (name : String) :
    get? name (Fixture.textFields entries).reverse = (get? name entries).map Json.string := by
  rw [Fixture.textFields, ← List.map_reverse, get?_map, get?_reverse (nodup_keys sorted)]

end

theorem findSome?_cons (first : Option Json) (rest : List (Option Json)) :
    (first :: rest).findSome? id = first.or (rest.findSome? id) := by
  cases first <;> rfl

theorem get?_bindings_of_standard (fixture : Fixture) {actual : ProcessOutput} {name : String}
    {value : Json} (standard : actual.standard? name = some value) :
    Record.get? name (bindings fixture actual) = some value := by
  rw [bindings, Record.get?_extend_reverse, get?_standardFields, standard]
  rfl

/-- A name stands for the first that there is of: a part of the output, the last file of that name,
a field of the fixture, a template variable, and a property. What an author names cannot change what
stands for the output. Variables and properties are in the order of their keys, as records are that
were made of entries. -/
theorem get?_bindings_eq_first {fixture : Fixture} (actual : ProcessOutput)
    (sortedVars : fixture.templateVars.keys.Pairwise (· < ·))
    (sortedProperties : fixture.expected.properties.keys.Pairwise (· < ·)) :
    (∀ name, Record.get? name (bindings fixture actual) =
      [actual.standard? name, (actual.file? name).map TempFile.binding, fixture.own? name,
        (Record.get? name fixture.templateVars).map Json.string,
        (Record.get? name fixture.expected.properties).map Json.string].findSome? id) ∧
    ∀ name ∈ ["output", "stdout", "stderr", "exitCode"], ∀ (other : Fixture) files,
      Record.get? name (bindings other { actual with tempFiles := files }) =
        Record.get? name (bindings fixture actual) := by
  constructor
  · intro name
    have declared : Record.get? name fixture.declaredFields =
        (fixture.own? name).or (((Record.get? name fixture.templateVars).map Json.string).or
          ((Record.get? name fixture.expected.properties).map Json.string)) := by
      rw [Fixture.declaredFields, Record.ofList, Record.get?_extend_reverse, List.reverse_append,
        List.reverse_append, Record.get?_append, Record.get?_append, get?_ownFields,
        get?_textFields sortedVars, get?_textFields sortedProperties]
      exact Option.or_none
    rw [bindings, Record.get?_extend_reverse, Record.get?_extend_reverse, get?_standardFields,
      get?_fileFields, declared]
    simp only [findSome?_cons, List.findSome?_nil, Option.or_none]
  · intro name member other files
    have isStandard : ∃ value, actual.standard? name = some value := by
      simp only [List.mem_cons, List.not_mem_nil, or_false] at member
      rcases member with rfl | rfl | rfl | rfl
      all_goals exact ⟨_, rfl⟩
    rcases isStandard with ⟨value, standard⟩
    rw [get?_bindings_of_standard fixture standard]
    exact get?_bindings_of_standard other standard

theorem get?_bindings_eq_first_of_collisions :
    let fixture : Fixture := {
      name := "lists"
      templateVars := [("owner", "me"), ("report", "r"), ("stdout", "s")]
      expected.properties := [("name", "n"), ("note", "slow"), ("owner", "you"), ("stdout", "t")] }
    let written := TempFile.ofContent "report" "/tmp/a.txt" ".txt" "a"
    let rewritten := TempFile.ofContent "report" "/tmp/b.txt" ".txt" "b"
    let actual : ProcessOutput := { stdout := "done", tempFiles := [written, rewritten] }
    fixture.templateVars.keys.Pairwise (· < ·) ∧
      fixture.expected.properties.keys.Pairwise (· < ·) ∧
      Record.get? "stdout" (bindings fixture actual) = some (.string "done") ∧
      Record.get? "report" (bindings fixture actual) = some rewritten.binding ∧
      Record.get? "name" (bindings fixture actual) = some (.string "lists") ∧
      Record.get? "owner" (bindings fixture actual) = some (.string "me") ∧
      Record.get? "note" (bindings fixture actual) = some (.string "slow") ∧
      Record.get? "query" (bindings fixture actual) = none ∧
      ∀ files, Record.get? "stdout" (bindings {} { actual with tempFiles := files }) =
        Record.get? "stdout" (bindings fixture actual) := by
  intro fixture written rewritten actual
  have sortedVars : fixture.templateVars.keys.Pairwise (· < ·) := by decide
  have sortedProperties : fixture.expected.properties.keys.Pairwise (· < ·) := by decide
  rcases get?_bindings_eq_first actual sortedVars sortedProperties with ⟨first, unchanged⟩
  exact ⟨sortedVars, sortedProperties, (first "stdout").trans rfl, (first "report").trans rfl,
    (first "name").trans rfl, (first "owner").trans rfl, (first "note").trans rfl,
    (first "query").trans rfl, unchanged "stdout" (by decide) {}⟩

end LiterateTest
