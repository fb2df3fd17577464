import LiterateTest.Proofs.Document.Row
import LiterateTest.Proofs.Record
import Mathlib.Data.Fintype.Basic
import Mathlib.Data.List.OfFn
import Mathlib.Logic.Equiv.Fin.Basic

/-! The order of the columns of a table. Different columns give different parts of a fixture, so the
cells of a row can be entered in any order. -/

namespace LiterateTest

/-! ## Columns -/

namespace Column

theorem eq_trim_of_ofHeader {header key : String} (found : ofHeader header = property key) :
    key = Text.trim header := by
  rw [ofHeader] at found
  split at found <;> cases found
  rfl

theorem ofHeader_congr {header other : String} (same : Text.trim header = Text.trim other) :
    ofHeader header = ofHeader other := by
  rw [ofHeader, ofHeader, same]

end Column

/-! ## Cells -/

def cellPart (header value : String) : Column :=
  match Column.ofHeader header with
  | .exitCode =>
      if value.isEmpty || (Integer.readInt32? value).isSome then .exitCode
      else .property (Text.trim header)
  | .count =>
      if value.isEmpty || (Integer.readInt64? value).isSome then .count
      else .property (Text.trim header)
  | column => column

namespace RowState

def put (state : RowState) (value : String) : Column → RowState
  | .name => { state with fixture.name := if value.isEmpty then state.fixture.name else value }
  | .cwd => { state with fixture.cwd := value }
  | .query => { state with fixture.query := value }
  | .exec => { state with execLine := if value.isEmpty then state.execLine else value }
  | .args => { state with extraArgs := state.extraArgs ++ Text.words value }
  | .exitCode =>
      { state with
        fixture.expected.exitCode :=
          (Integer.readInt32? value).or state.fixture.expected.exitCode }
  | .count =>
      { state with
        fixture.expected.count := (Integer.readInt64? value).or state.fixture.expected.count }
  | .output => { state with fixture.expected.stdout := value }
  | .format => { state with fixture.expected.format := value }
  | .error => { state with fixture.expected.error := value }
  | .expression =>
      { state with
        fixture.expected.expression :=
          if value.isEmpty then state.fixture.expected.expression
          else (Expectations.pushExpression { expression := state.fixture.expected.expression }
            (Validation.compileItem value)).expression }
  | .property key =>
      { state with
        fixture.expected.properties := state.fixture.expected.properties.insert key value }

theorem put_comm {part other : Column} (different : part ≠ other) (state : RowState)
    (value second : String) :
    (state.put value part).put second other = (state.put second other).put value part := by
  cases part with
  | property key =>
      cases other with
      | property otherKey =>
          have keys : otherKey ≠ key := fun same => different (congrArg Column.property same.symm)
          rw [put, put, put, put, Record.insert_comm keys]
      | _ => rfl
  | _ =>
      cases other <;> first | rfl | exact absurd rfl different

theorem enter_eq (state : RowState) (header cell : String) :
    state.enter header cell = state.put (Text.trim cell) (cellPart header (Text.trim cell)) := by
  rw [enter, cellPart]
  generalize Text.trim cell = value
  -- An empty cell is no number, yet it is no property in a column of numbers either.
  by_cases empty : value.isEmpty = true
  · rw [String.isEmpty_iff.mp empty]
    cases Column.ofHeader header <;> rfl
  · cases Column.ofHeader header with
    | exitCode =>
        cases number : Integer.readInt32? value <;>
          simp [empty, number, put, updateExpected, addProperty]
    | count =>
        cases number : Integer.readInt64? value <;>
          simp [empty, number, put, updateExpected, addProperty]
    | name => simp only [put, if_neg empty]
    | exec => simp only [put, if_neg empty]
    | expression =>
        simp only [put, if_neg empty, updateExpected]
        rw [Expectations.pushExpression_eq]
    | _ => rfl

end RowState

section

variable {header other : String}

theorem cellPart_cases (header value : String) :
    cellPart header value = Column.ofHeader header ∨
      cellPart header value = .property (Text.trim header) := by
  rw [cellPart]
  split
  · next column =>
      rw [column]
      split
      · exact .inl rfl
      · exact .inr rfl
  · next column =>
      rw [column]
      split
      · exact .inl rfl
      · exact .inr rfl
  · exact .inl rfl

/-- A number that is none is kept under a header that no other column can have. -/
theorem cellPart_ne (different : Column.ofHeader header ≠ Column.ofHeader other)
    (value second : String) : cellPart header value ≠ cellPart other second := by
  have differentTexts : Text.trim header ≠ Text.trim other :=
    fun same => different (Column.ofHeader_congr same)
  rcases cellPart_cases header value with own | own <;>
    rcases cellPart_cases other second with others | others
  · rw [own, others]
    exact different
  · rw [own, others]
    exact fun same => differentTexts (Column.eq_trim_of_ofHeader same).symm
  · rw [own, others]
    exact fun same => differentTexts (Column.eq_trim_of_ofHeader same.symm)
  · rw [own, others]
    exact fun same => differentTexts (Column.property.inj same)

end

/-! ## Rows -/

theorem RowState.enter_comm {header other : String}
    (different : Column.ofHeader header ≠ Column.ofHeader other) (state : RowState)
    (cell otherCell : String) :
    (state.enter header cell).enter other otherCell =
      (state.enter other otherCell).enter header cell := by
  rw [enter_eq, enter_eq, enter_eq, enter_eq]
  exact put_comm (cellPart_ne different _ _) state _ _

theorem Fixture.ofRow_perm {headers cells otherHeaders otherCells : List String}
    (distinct : ((headers.zip cells).map fun column => Column.ofHeader column.1).Nodup)
    (perm : (headers.zip cells).Perm (otherHeaders.zip otherCells)) (rowNumber : Nat)
    (frontMatter : FrontMatter) (sourceDir : String) :
    ofRow headers cells rowNumber frontMatter sourceDir =
      ofRow otherHeaders otherCells rowNumber frontMatter sourceDir := by
  rw [ofRow, ofRow]
  congr 1
  apply perm.foldl_eq'
  intro first firstMember second secondMember state
  by_cases same : first = second
  · rw [same]
  · apply RowState.enter_comm
    exact fun sameColumn =>
      same (List.inj_on_of_nodup_map distinct firstMember secondMember sameColumn)

theorem zip_ofFn {count : Nat} (first second : Fin count → String) :
    (List.ofFn first).zip (List.ofFn second) =
      List.ofFn fun index => (first index, second index) := by
  apply List.ext_getElem
  · simp
  · intro index _ _
    simp

/-- The order of the columns does not matter: a row gives the same fixture if its cells change
places together with their headers, as long as no two headers name the same column. -/
theorem Fixture.ofRow_permuted {columns : Nat} (headers cells : Fin columns → String)
    (distinct : Function.Injective fun column => Column.ofHeader (headers column))
    (order : Equiv.Perm (Fin columns)) (rowNumber : Nat) (frontMatter : FrontMatter)
    (sourceDir : String) :
    ofRow (List.ofFn (headers ∘ order)) (List.ofFn (cells ∘ order)) rowNumber frontMatter
        sourceDir =
      ofRow (List.ofFn headers) (List.ofFn cells) rowNumber frontMatter sourceDir := by
  symm
  apply ofRow_perm
  · rw [zip_ofFn, List.map_ofFn, List.nodup_ofFn]
    intro first second same
    rw [Function.comp_apply, Function.comp_apply] at same
    exact distinct same
  · rw [zip_ofFn, zip_ofFn]
    exact (order.ofFn_comp_perm fun column => (headers column, cells column)).symm

theorem Fixture.ofRow_permuted_of_fallback :
    let headers : Fin 6 → String := ![" Exit Code", "exit", "Count", "Owner", "Args", "cli"]
    let cells : Fin 6 → String := !["two", "x", "3", "me", "-n a", "echo -e"]
    Function.Injective (fun column => Column.ofHeader (headers column)) ∧
      ofRow ["cli", "Args", "Owner", "Count", "exit", " Exit Code"]
          ["echo -e", "-n a", "me", "3", "x", "two"] 1 {} "" =
        ofRow (List.ofFn headers) (List.ofFn cells) 1 {} "" := by
  intro headers cells
  have distinct : Function.Injective fun column => Column.ofHeader (headers column) := by decide
  have reversedHeaders : List.ofFn (headers ∘ Fin.revPerm) =
      ["cli", "Args", "Owner", "Count", "exit", " Exit Code"] := rfl
  have reversedCells : List.ofFn (cells ∘ Fin.revPerm) =
      ["echo -e", "-n a", "me", "3", "x", "two"] := rfl
  have permuted := ofRow_permuted headers cells distinct Fin.revPerm 1 {} ""
  rw [reversedHeaders, reversedCells] at permuted
  exact ⟨distinct, permuted⟩

end LiterateTest
