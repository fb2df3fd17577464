import LiterateTest.Proofs.Document.ColumnOrder

/-! Blank cells. In about half of the columns a blank cell says nothing. In the others it takes away
what the fixture has, unless another cell of that column follows. -/

namespace LiterateTest

/-! ## Texts that cells replace -/

namespace Fixture

/-- The text that a fixture has from a column whose cells are taken as they are, blank ones too. -/
def text? (fixture : Fixture) : Column → Option String
  | .cwd => some fixture.cwd
  | .query => some fixture.query
  | .output => some fixture.expected.stdout
  | .format => some fixture.expected.format
  | .error => some fixture.expected.error
  | _ => none

def cleared (fixture : Fixture) : Column → Fixture
  | .cwd => { fixture with cwd := "" }
  | .query => { fixture with query := "" }
  | .output => { fixture with expected.stdout := "" }
  | .format => { fixture with expected.format := "" }
  | .error => { fixture with expected.error := "" }
  | _ => fixture

theorem text?_cleared {fixture : Fixture} {column : Column} {text : String}
    (found : fixture.text? column = some text) : (fixture.cleared column).text? column = some "" := by
  cases column <;> first | rfl | cases found

theorem cleared_of_text? {fixture : Fixture} {column : Column}
    (none : ∀ text, fixture.text? column = some text → text = "") :
    fixture.cleared column = fixture := by
  rcases fixture with ⟨_, _, _, cwd, _, query, ⟨_, stdout, _, _, _, format, error, _⟩, _, _, _, _, _⟩
  cases column with
  | cwd =>
      have empty : cwd = "" := none _ rfl
      rw [empty]
      rfl
  | query =>
      have empty : query = "" := none _ rfl
      rw [empty]
      rfl
  | output =>
      have empty : stdout = "" := none _ rfl
      rw [empty]
      rfl
  | format =>
      have empty : format = "" := none _ rfl
      rw [empty]
      rfl
  | error =>
      have empty : error = "" := none _ rfl
      rw [empty]
      rfl
  | name | exec | args | exitCode | count | expression | property key => rfl

theorem cleared_eq_self_iff {fixture : Fixture} {column : Column} :
    fixture.cleared column = fixture ↔
      ∀ text, fixture.text? column = some text → text = "" := by
  constructor
  · intro same text found
    have empty := text?_cleared found
    rw [same, found] at empty
    exact Option.some.inj empty
  · exact cleared_of_text?

end Fixture

/-! ## Blank cells among others -/

namespace RowState

def cleared (state : RowState) (column : Column) : RowState :=
  { state with fixture := state.fixture.cleared column }

section

variable {column : Column} (known : ∀ key, column ≠ .property key)

include known

theorem put_blank (state : RowState) : state.put "" column = state.cleared column := by
  cases column with
  | property key => exact absurd rfl (known key)
  | args =>
      have noWords : state.extraArgs ++ Text.words "" = state.extraArgs := List.append_nil _
      rw [put, noWords]
      rfl
  | _ => rfl

theorem finish_cleared (state : RowState) :
    (state.cleared column).finish = state.finish.cleared column := by
  cases column with
  | property key => exact absurd rfl (known key)
  | _ => rfl

theorem enter_cleared_of_eq {header : String} (same : Column.ofHeader header = column)
    (state : RowState) (cell : String) :
    (state.cleared column).enter header cell = state.enter header cell := by
  rw [enter, enter, same]
  cases column with
  | property key => exact absurd rfl (known key)
  | _ => rfl

theorem enter_cleared_of_ne {header : String} (different : Column.ofHeader header ≠ column)
    (state : RowState) (cell : String) :
    (state.cleared column).enter header cell = (state.enter header cell).cleared column := by
  have otherPart : column ≠ cellPart header (Text.trim cell) := by
    rcases cellPart_cases header (Text.trim cell) with own | kept
    · exact fun same => different (same.trans own).symm
    · exact fun same => known _ (same.trans kept)
  rw [← put_blank known, ← put_blank known, enter_eq, enter_eq]
  exact put_comm otherPart state "" (Text.trim cell)

theorem foldl_enter_cleared (cells : List (String × String)) (state : RowState) :
    cells.foldl (fun state (header, cell) => state.enter header cell) (state.cleared column) =
      if ∃ later ∈ cells, Column.ofHeader later.1 = column then
        cells.foldl (fun state (header, cell) => state.enter header cell) state
      else
        (cells.foldl (fun state (header, cell) => state.enter header cell) state).cleared
          column := by
  induction cells generalizing state with
  | nil => simp
  | cons cell rest induction =>
      rcases cell with ⟨header, cell⟩
      rw [List.foldl_cons, List.foldl_cons]
      dsimp only
      by_cases same : Column.ofHeader header = column
      · have isGiven : ∃ later ∈ (header, cell) :: rest, Column.ofHeader later.1 = column :=
          ⟨_, List.mem_cons_self, same⟩
        rw [if_pos isGiven, enter_cleared_of_eq known same]
      · rw [enter_cleared_of_ne known same, induction]
        simp only [List.exists_mem_cons_iff, same, false_or]

end

theorem enter_blank {header cell : String} (known : ∀ key, Column.ofHeader header ≠ .property key)
    (blank : Text.trim cell = "") (state : RowState) :
    state.enter header cell = state.cleared (Column.ofHeader header) := by
  have ownPart : cellPart header "" = Column.ofHeader header := by
    rw [cellPart]
    cases Column.ofHeader header <;> rfl
  rw [enter_eq, blank, ownPart, put_blank known]

end RowState

/-! ## Rows -/

theorem zip_insertIdx {headers cells : List String} {position : Nat}
    (inHeaders : position ≤ headers.length) (inCells : position ≤ cells.length)
    (header cell : String) :
    (headers.insertIdx position header).zip (cells.insertIdx position cell) =
      (headers.zip cells).take position ++ (header, cell) :: (headers.zip cells).drop position := by
  induction position generalizing headers cells with
  | zero => rfl
  | succ position induction =>
      cases headers with
      | nil => cases inHeaders
      | cons first headers =>
          cases cells with
          | nil => cases inCells
          | cons second cells =>
              have rest := induction (Nat.le_of_succ_le_succ inHeaders)
                (Nat.le_of_succ_le_succ inCells)
              simp [rest]

/-- What a blank cell under a known header does to the fixture of a row, wherever it is put in. It
takes the text of its column away, if that is a column of texts that are taken as they are, and no
other cell of this column follows. So it declares nothing just if there is no such text to take away,
or another cell gives it. -/
theorem Fixture.ofRow_insertIdx_blank {headers cells : List String} {position : Nat}
    (inHeaders : position ≤ headers.length) (inCells : position ≤ cells.length)
    {header cell : String} (known : ∀ key, Column.ofHeader header ≠ .property key)
    (blank : Text.trim cell = "") (rowNumber : Nat) (frontMatter : FrontMatter)
    (sourceDir : String) :
    let column := Column.ofHeader header
    let isGivenLater := ∃ later ∈ (headers.zip cells).drop position,
      Column.ofHeader later.1 = column
    let row := ofRow headers cells rowNumber frontMatter sourceDir
    let rowWithBlank := ofRow (headers.insertIdx position header) (cells.insertIdx position cell)
      rowNumber frontMatter sourceDir
    (isGivenLater → rowWithBlank = row) ∧
    (¬isGivenLater → rowWithBlank = row.cleared column) ∧
    (rowWithBlank = row ↔ isGivenLater ∨ ∀ text, row.text? column = some text → text = "") := by
  intro column isGivenLater row rowWithBlank
  have entered : rowWithBlank = if isGivenLater then row else row.cleared column := by
    simp only [rowWithBlank, row, ofRow]
    rw [zip_insertIdx inHeaders inCells, List.foldl_append, List.foldl_cons,
      RowState.enter_blank known blank, RowState.foldl_enter_cleared known,
      ← List.foldl_append, List.take_append_drop]
    split
    · rfl
    · exact RowState.finish_cleared known _
  by_cases given : isGivenLater
  · rw [if_pos given] at entered
    simp [entered, given]
  · rw [if_neg given] at entered
    simp [entered, given, cleared_eq_self_iff]

theorem Fixture.ofRow_insertIdx_blank_of_exitCode :
    let headers := ["Output", "CLI", "Error"]
    let cells := ["hi", "echo hi", "warning"]
    2 ≤ headers.length ∧ 2 ≤ cells.length ∧
    (∀ key, Column.ofHeader "Exit Code" ≠ .property key) ∧ Text.trim " \t" = "" ∧
    ofRow ["Output", "CLI", "Exit Code", "Error"] ["hi", "echo hi", " \t", "warning"] 1 {} "" =
      ofRow headers cells 1 {} "" := by
  intro headers cells
  have known : ∀ key, Column.ofHeader "Exit Code" ≠ .property key := by
    have column : Column.ofHeader "Exit Code" = .exitCode := by decide
    rw [column]
    exact fun key same => nomatch same
  have blank : Text.trim " \t" = "" := by decide
  have inHeaders : 2 ≤ headers.length := by decide
  have inCells : 2 ≤ cells.length := by decide
  have unchanged := (ofRow_insertIdx_blank inHeaders inCells known blank 1 {} "").2.2.mpr
    (.inr fun text found => nomatch found)
  exact ⟨inHeaders, inCells, known, blank, unchanged⟩

/-- A blank cell discards the directory that the front matter sets for all tests of the document, and
a blank cell under another name of the same column discards the output that the row asks for. -/
theorem Fixture.ofRow_blank_exceptions :
    let frontMatter : FrontMatter := { cwd := "work" }
    Column.ofHeader "CWD" = .cwd ∧ Column.ofHeader "Matches" = .output ∧ Text.trim "" = "" ∧
    (ofRow ["CLI"] ["true"] 1 frontMatter "").cwd = "work" ∧
    (ofRow (["CLI"].insertIdx 1 "CWD") (["true"].insertIdx 1 "") 1 frontMatter "").cwd = "" ∧
    (ofRow ["CLI", "Output"] ["echo hi", "hi"] 1 {} "").expected.stdout = "hi" ∧
    (ofRow (["CLI", "Output"].insertIdx 2 "Matches") (["echo hi", "hi"].insertIdx 2 "") 1 {}
      "").expected.stdout = "" := by
  decide

end LiterateTest
