import LiterateTest.Proofs.Document.Segment

/-! Which block of a document declares which test, and when the test is complete. A row of a table
is complete at once, the command of a segment at its end, and other code at the list of its
validations, at the next code of its kind or at the end of its segment. -/

namespace LiterateTest

/-! ## Blocks -/

namespace Block

def standalone? : Block → Option (String × String)
  | code language content =>
      if Language.isStandalone language then some (language, content) else none
  | _ => none

def command? (frontMatter : FrontMatter) : Block → Option (String × String)
  | code language content =>
      if !Language.isFrontMatter language && frontMatter.allowsLanguage language then
        some (language, content)
      else none
  | _ => none

/-- Whether code that waits for its validations waits no longer than to the block. -/
def settles (block : Block) : Bool := block.standalone?.isSome || block.validations?.isSome

def title? : Block → Option Heading
  | heading level text =>
      if (CommandBlock.name? ⟨level, text⟩).isSome then none else some ⟨level, text⟩
  | _ => none

end Block

def StandaloneBlock.validationsIn (after : List Block) : List String :=
  ((after.takeWhile fun block => block.standalone?.isNone).findSome? Block.validations?).getD []

/-! ## Declarations -/

/-- A test of a document with its place there. Positions are those of blocks. -/
structure Declaration where
  /-- Where the block is that declares the test. -/
  position : Nat
  /-- Where the test is complete. -/
  settled : Nat
  /-- The number of the row of a table, from 1 on; other tests have 0. -/
  row : Nat := 0
  fixture : Fixture
  deriving DecidableEq, Repr

namespace Declaration

def noLater (first second : Declaration) : Bool :=
  first.settled < second.settled || (first.settled == second.settled && first.row ≤ second.row)

section

variable (frontMatter : FrontMatter) (sourceDir : String)

def ofRow? (headers : List String) (position : Nat) (cells : List String) (row : Nat) :
    Option Declaration :=
  if cells.length = headers.length then
    some
      { position, settled := position, row
        fixture := .ofRow headers cells row frontMatter sourceDir }
  else none

def ofRows (position : Nat) : Block → List Declaration
  | .table headers rows =>
      (rows.zipIdx 1).filterMap fun (cells, row) =>
        ofRow? frontMatter sourceDir headers position cells row
  | _ => []

/-- The first code in a segment that can be its command is a test if it is not blank and there is a
name. All front matter and all validations of the segment are for it. -/
def ofCommand (name : String) (before : List Block) (position : Nat) (block : Block)
    (after : List Block) : List Declaration :=
  match block.command? frontMatter with
  | none => []
  | some (language, code) =>
      if before.any fun other => (other.command? frontMatter).isSome then []
      else if name.isEmpty || Text.isBlankText code then []
      else
        match CommandBlock.overrides (before ++ block :: after) with
        | .error _ => []
        | .ok overrides =>
            [{ position, settled := position + 1 + after.length
               fixture := CommandBlock.fixture name frontMatter sourceDir overrides
                 (Language.command language code)
                 (CommandBlock.validations (before ++ block :: after)) }]

/-- Other code is a test if it is not blank. The first list of validations behind it is for it,
unless other code comes first. -/
def ofStandalone (title : Option String) (position : Nat) (block : Block) (after : List Block) :
    List Declaration :=
  match block.standalone? with
  | none => []
  | some (language, code) =>
      let waiting : StandaloneBlock := { name := title.getD (language ++ "-block"), language, code }
      let settled := position + 1 + (after.takeWhile fun other => !other.settles).length
      Option.toList <|
        (waiting.fixture? frontMatter sourceDir (StandaloneBlock.validationsIn after)).map
          fun fixture => { position, settled, fixture }

def ofBlock (heading : Option Heading) (before : List Block) (position : Nat) (block : Block)
    (after : List Block) : List Declaration :=
  ofRows frontMatter sourceDir position block ++
    match heading.bind CommandBlock.name? with
    | some name => ofCommand frontMatter sourceDir name before position block after
    | none => ofStandalone frontMatter sourceDir (heading.map Heading.text) position block after

def ofBody (heading : Option Heading) : (before : List Block) → (position : Nat) → List Block →
    List Declaration
  | _, _, [] => []
  | before, position, block :: after =>
      ofBlock frontMatter sourceDir heading before position block after
        ++ ofBody heading (before ++ [block]) (position + 1) after

end

end Declaration

namespace Document

def headings (blocks : List Block) : List Heading := blocks.filterMap Block.title?

section

variable (frontMatter : FrontMatter) (sourceDir : String)

def declarationsFrom : (heading : Option Heading) → (before : List Block) → (position : Nat) →
    List Block → List Declaration
  | _, _, _, [] => []
  | _, _, position, .heading level text :: rest =>
      declarationsFrom (some ⟨level, text⟩) [] (position + 1) rest
  | heading, before, position, block :: rest =>
      Declaration.ofBlock frontMatter sourceDir heading before position block
          (rest.takeWhile Block.isPlain)
        ++ declarationsFrom heading (before ++ [block]) (position + 1) rest

def declarations (blocks : List Block) : List Declaration :=
  declarationsFrom frontMatter sourceDir none [] 0 blocks

def settlements (blocks : List Block) : List Declaration :=
  (declarations frontMatter sourceDir blocks).mergeSort Declaration.noLater

end

end Document

/-! ## Places -/

namespace Declaration

structure Fits (start finish : Nat) (declaration : Declaration) : Prop where
  start_le : start ≤ declaration.position
  lt_finish : declaration.position < finish
  settled_le : declaration.settled ≤ finish
  row : declaration.row ≠ 0 → declaration.settled = declaration.position
  other : declaration.row = 0 → declaration.position < declaration.settled

namespace Fits

variable {start finish : Nat} {declaration : Declaration}

theorem position_le (fits : Fits start finish declaration) :
    declaration.position ≤ declaration.settled := by
  by_cases isOther : declaration.row = 0
  · exact Nat.le_of_lt (fits.other isOther)
  · exact Nat.le_of_eq (fits.row isOther).symm

theorem row_eq_zero (fits : Fits start finish declaration)
    (waits : declaration.position < declaration.settled) : declaration.row = 0 := by
  by_cases isOther : declaration.row = 0
  · exact isOther
  · exact absurd (fits.row isOther) (Nat.ne_of_gt waits)

theorem mono (fits : Fits start finish declaration) {before after : Nat} (le : before ≤ start)
    (ge : finish ≤ after) : Fits before after declaration where
  start_le := Nat.le_trans le fits.start_le
  lt_finish := Nat.lt_of_lt_of_le fits.lt_finish ge
  settled_le := Nat.le_trans fits.settled_le ge
  row := fits.row
  other := fits.other

end Fits

section

variable {frontMatter : FrontMatter} {sourceDir : String}

theorem of_ofRow? {headers cells : List String} {position row : Nat} {declaration : Declaration}
    (found : ofRow? frontMatter sourceDir headers position cells row = some declaration) :
    declaration.position = position ∧ declaration.settled = position ∧ declaration.row = row := by
  rw [ofRow?] at found
  split at found
  · cases found
    exact ⟨rfl, rfl, rfl⟩
  · cases found

theorem mem_ofRows {position : Nat} {block : Block} {declaration : Declaration}
    (member : declaration ∈ ofRows frontMatter sourceDir position block) :
    declaration.position = position ∧ declaration.settled = position ∧ declaration.row ≠ 0 := by
  cases block with
  | table headers rows =>
      rcases List.mem_filterMap.mp member with ⟨⟨cells, row⟩, numbered, found⟩
      have first := List.le_snd_of_mem_zipIdx numbered
      have own := of_ofRow? found
      exact ⟨own.1, own.2.1, by omega⟩
  | heading level text => cases member
  | code language content => cases member
  | list items => cases member

theorem pairwise_ofRows (position : Nat) (block : Block) :
    (ofRows frontMatter sourceDir position block).Pairwise fun first second =>
      first.row < second.row := by
  cases block with
  | table headers rows =>
      have numbers : (rows.zipIdx 1).Pairwise fun first second => first.2 < second.2 := by
        rw [← List.pairwise_map, List.zipIdx_map_snd]
        exact List.pairwise_lt_range'
      refine numbers.filterMap _ ?_
      intro first second less declaration isFirst other isSecond
      rw [(of_ofRow? isFirst).2.2, (of_ofRow? isSecond).2.2]
      exact less
  | heading level text => exact .nil
  | code language content => exact .nil
  | list items => exact .nil

theorem mem_ofCommand {name : String} {before : List Block} {position : Nat} {block : Block}
    {after : List Block} {declaration : Declaration}
    (member : declaration ∈ ofCommand frontMatter sourceDir name before position block after) :
    declaration.position = position ∧ declaration.settled = position + 1 + after.length ∧
      declaration.row = 0 ∧ (block.command? frontMatter).isSome = true ∧
      ∀ other ∈ before, other.command? frontMatter = none := by
  rw [ofCommand] at member
  split at member
  · cases member
  · next language code found =>
      split at member
      · cases member
      · next isFirst =>
          split at member
          · cases member
          · split at member
            · cases member
            · cases List.mem_singleton.mp member
              exact ⟨rfl, rfl, rfl, by rw [found]; rfl, by simpa using isFirst⟩

theorem mem_ofStandalone {title : Option String} {position : Nat} {block : Block}
    {after : List Block} {declaration : Declaration}
    (member : declaration ∈ ofStandalone frontMatter sourceDir title position block after) :
    declaration.position = position ∧
      declaration.settled =
        position + 1 + (after.takeWhile fun other => !other.settles).length ∧
      declaration.row = 0 ∧ block.settles = true := by
  rw [ofStandalone] at member
  split at member
  · cases member
  · next language code found =>
      rcases Option.map_eq_some_iff.mp (Option.mem_toList.mp member) with ⟨fixture, -, rfl⟩
      exact ⟨rfl, rfl, rfl, by rw [Block.settles, found]; rfl⟩

theorem mem_ofBlock {heading : Option Heading} {before : List Block} {position : Nat}
    {block : Block} {after : List Block} {declaration : Declaration}
    (member : declaration ∈ ofBlock frontMatter sourceDir heading before position block after) :
    declaration.position = position ∧ Fits position (position + 1 + after.length) declaration := by
  have waits : (after.takeWhile fun other => !other.settles).length ≤ after.length :=
    (List.takeWhile_sublist _).length_le
  rcases List.mem_append.mp member with member | member
  · have own := mem_ofRows member
    exact ⟨own.1, by constructor <;> omega⟩
  · split at member
    · have own := mem_ofCommand member
      exact ⟨own.1, by constructor <;> omega⟩
    · have own := mem_ofStandalone member
      exact ⟨own.1, by constructor <;> omega⟩

theorem mem_ofBody {heading : Option Heading} {before : List Block} {position : Nat}
    {body : List Block} {declaration : Declaration}
    (member : declaration ∈ ofBody frontMatter sourceDir heading before position body) :
    Fits position (position + body.length) declaration := by
  induction body generalizing before position with
  | nil => cases member
  | cons block after induction =>
      rw [List.length_cons]
      rcases List.mem_append.mp member with member | member
      · exact (mem_ofBlock member).2.mono (Nat.le_refl position) (by omega)
      · exact (induction member).mono (Nat.le_succ position) (by omega)

/-! ### Order of declaration -/

/-- Whether a test is declared before another one. If it is not complete there, it waits behind a
row. -/
def DeclaredBefore (first second : Declaration) : Prop :=
  (first.position < second.position ∧
      (first.settled ≤ second.position ∨ second.row ≠ 0)) ∨
    (first.position = second.position ∧ first.settled = second.settled ∧ first.row < second.row)

theorem pairwise_ofCommand (name : String) (before : List Block) (position : Nat) (block : Block)
    (after : List Block) :
    (ofCommand frontMatter sourceDir name before position block after).Pairwise DeclaredBefore := by
  rw [ofCommand]
  repeat' split
  all_goals first | exact .nil | exact List.pairwise_singleton _ _

theorem pairwise_ofStandalone (title : Option String) (position : Nat) (block : Block)
    (after : List Block) :
    (ofStandalone frontMatter sourceDir title position block after).Pairwise DeclaredBefore := by
  rw [ofStandalone]
  split
  · exact .nil
  · dsimp only
    cases Option.map _ _ with
    | none => exact .nil
    | some declaration => exact List.pairwise_singleton _ declaration

theorem pairwise_ofBlock (heading : Option Heading) (before : List Block) (position : Nat)
    (block : Block) (after : List Block) :
    (ofBlock frontMatter sourceDir heading before position block after).Pairwise
      DeclaredBefore := by
  refine List.pairwise_append.mpr ⟨?_, ?_, ?_⟩
  · refine (pairwise_ofRows position block).imp_of_mem ?_
    intro first second isFirst isSecond less
    have own := mem_ofRows isFirst
    have other := mem_ofRows isSecond
    exact .inr ⟨own.1.trans other.1.symm, own.2.1.trans other.2.1.symm, less⟩
  · split
    · exact pairwise_ofCommand ..
    · exact pairwise_ofStandalone ..
  · -- Just tables have rows, and just code is something else.
    intro row isRow test isTest
    cases block with
    | table headers rows => split at isTest <;> cases isTest
    | heading level text => cases isRow
    | code language content => cases isRow
    | list items => cases isRow

def rowsOfBody (frontMatter : FrontMatter) (sourceDir : String) :
    (position : Nat) → List Block → List Declaration
  | _, [] => []
  | position, block :: after =>
      ofRows frontMatter sourceDir position block
        ++ rowsOfBody frontMatter sourceDir (position + 1) after

theorem mem_rowsOfBody {position : Nat} {body : List Block} {declaration : Declaration}
    (member : declaration ∈ rowsOfBody frontMatter sourceDir position body) :
    declaration.row ≠ 0 ∧ position ≤ declaration.settled ∧
      declaration.settled < position + body.length := by
  induction body generalizing position with
  | nil => cases member
  | cons block after induction =>
      rw [List.length_cons]
      rcases List.mem_append.mp member with member | member
      · have own := mem_ofRows member
        omega
      · have later := induction member
        omega

theorem ofBody_of_taken {heading : Option Heading} {name : String}
    (isCommand : heading.bind CommandBlock.name? = some name) {taken : Block}
    (takes : (taken.command? frontMatter).isSome = true) {before : List Block}
    (inFront : taken ∈ before) (position : Nat) (body : List Block) :
    ofBody frontMatter sourceDir heading before position body =
      rowsOfBody frontMatter sourceDir position body := by
  induction body generalizing before position with
  | nil => rfl
  | cons block after induction =>
      have none : ofCommand frontMatter sourceDir name before position block after = [] := by
        apply List.eq_nil_iff_forall_not_mem.mpr
        intro declaration member
        have free := (mem_ofCommand member).2.2.2.2 taken inFront
        rw [free] at takes
        cases takes
      rw [ofBody, ofBlock, isCommand, induction (List.mem_append_left _ inFront), rowsOfBody]
      simp only [none, List.append_nil]

theorem wait_le_of_mem_ofBody {heading : Option Heading}
    (noCommand : heading.bind CommandBlock.name? = none) {before : List Block} {position : Nat}
    {body : List Block} {declaration : Declaration}
    (member : declaration ∈ ofBody frontMatter sourceDir heading before position body) :
    position + (body.takeWhile fun other => !other.settles).length ≤ declaration.position ∨
      declaration.row ≠ 0 := by
  induction body generalizing before position with
  | nil => cases member
  | cons block after induction =>
      rw [List.takeWhile_cons]
      rcases List.mem_append.mp member with member | member
      · rw [ofBlock, noCommand] at member
        rcases List.mem_append.mp member with member | member
        · exact .inr (mem_ofRows member).2.2
        · have own := mem_ofStandalone member
          left
          simp [own.2.2.2, own.1]
      · rcases induction member with le | isRow
        · left
          split
          · rw [List.length_cons]
            omega
          · have beyond := le
            simp only [List.length_nil]
            omega
        · exact .inr isRow

theorem settled_le_of_mem_ofBody {heading : Option Heading} {before : List Block} {position : Nat}
    {block : Block} {after : List Block} {first second : Declaration}
    (isFirst : first ∈ ofBlock frontMatter sourceDir heading before position block after)
    (isSecond : second ∈
      ofBody frontMatter sourceDir heading (before ++ [block]) (position + 1) after) :
    first.settled ≤ second.position ∨ second.row ≠ 0 := by
  rcases List.mem_append.mp isFirst with isFirst | isFirst
  · left
    have own := mem_ofRows isFirst
    have later : position + 1 ≤ second.position := (mem_ofBody isSecond).start_le
    omega
  · split at isFirst
    · next isCommand =>
        right
        rw [ofBody_of_taken isCommand (mem_ofCommand isFirst).2.2.2.1
          (List.mem_append_right before List.mem_cons_self)] at isSecond
        exact (mem_rowsOfBody isSecond).1
    · next noCommand =>
        rw [(mem_ofStandalone isFirst).2.1]
        exact wait_le_of_mem_ofBody noCommand isSecond

end

end Declaration

namespace Document

open Declaration

section

variable {frontMatter : FrontMatter} {sourceDir : String}

theorem declarationsFrom_cons {block : Block} (isPlain : block.isPlain = true)
    (heading : Option Heading) (before : List Block) (position : Nat) (rest : List Block) :
    declarationsFrom frontMatter sourceDir heading before position (block :: rest) =
      ofBlock frontMatter sourceDir heading before position block (rest.takeWhile Block.isPlain)
        ++ declarationsFrom frontMatter sourceDir heading (before ++ [block]) (position + 1)
          rest := by
  cases block with
  | heading level text => cases isPlain
  | code language content => rfl
  | list items => rfl
  | table headers rows => rfl

theorem declarationsFrom_eq (heading : Option Heading) (before : List Block) (position : Nat)
    (blocks : List Block) :
    declarationsFrom frontMatter sourceDir heading before position blocks =
      ofBody frontMatter sourceDir heading before position
          (blocks.takeWhile Block.isPlain)
        ++ declarationsFrom frontMatter sourceDir heading
          (before ++ blocks.takeWhile Block.isPlain)
          (position + (blocks.takeWhile Block.isPlain).length)
          (blocks.dropWhile Block.isPlain) := by
  induction blocks generalizing before position with
  | nil => rfl
  | cons block rest induction =>
      cases isPlain : block.isPlain with
      | false =>
          have stops : ¬block.isPlain = true := by rw [isPlain]; exact Bool.false_ne_true
          rw [List.takeWhile_cons_of_neg stops, List.dropWhile_cons_of_neg stops, List.append_nil]
          rfl
      | true =>
          rw [declarationsFrom_cons isPlain, induction, List.takeWhile_cons_of_pos isPlain,
            List.dropWhile_cons_of_pos isPlain, ofBody, List.length_cons, List.append_assoc,
            List.append_assoc, Nat.add_assoc, Nat.add_comm 1]
          rfl

theorem mem_declarationsFrom {heading : Option Heading} {before : List Block} {position : Nat}
    {blocks : List Block} {declaration : Declaration}
    (member : declaration ∈
      declarationsFrom frontMatter sourceDir heading before position blocks) :
    Fits position (position + blocks.length) declaration := by
  induction blocks generalizing heading before position with
  | nil => cases member
  | cons block rest induction =>
      have later {heading : Option Heading} {before : List Block}
          (member : declaration ∈
            declarationsFrom frontMatter sourceDir heading before (position + 1) rest) :
          Fits position (position + (block :: rest).length) declaration :=
        (induction member).mono (Nat.le_succ position) (by rw [List.length_cons]; omega)
      cases isPlain : block.isPlain with
      | false =>
          rcases Block.exists_heading isPlain with ⟨level, text, rfl⟩
          exact later member
      | true =>
          rw [declarationsFrom_cons isPlain] at member
          rcases List.mem_append.mp member with member | member
          · have within : (rest.takeWhile Block.isPlain).length ≤ rest.length :=
              (List.takeWhile_sublist _).length_le
            exact (mem_ofBlock member).2.mono (Nat.le_refl position)
              (by rw [List.length_cons]; omega)
          · exact later member

theorem pairwise_declarationsFrom (heading : Option Heading) (before : List Block)
    (position : Nat) (blocks : List Block) :
    (declarationsFrom frontMatter sourceDir heading before position blocks).Pairwise
      DeclaredBefore := by
  induction blocks generalizing heading before position with
  | nil => exact .nil
  | cons block rest induction =>
      cases isPlain : block.isPlain with
      | false =>
          rcases Block.exists_heading isPlain with ⟨level, text, rfl⟩
          exact induction ..
      | true =>
          rw [declarationsFrom_cons isPlain]
          refine List.pairwise_append.mpr ⟨pairwise_ofBlock .., induction .., ?_⟩
          intro first isFirst second isSecond
          have own := mem_ofBlock isFirst
          have later := (mem_declarationsFrom isSecond).start_le
          refine .inl ⟨by omega, ?_⟩
          rw [declarationsFrom_eq] at isSecond
          rcases List.mem_append.mp isSecond with isSecond | isSecond
          · exact settled_le_of_mem_ofBody isFirst isSecond
          · exact .inl (Nat.le_trans own.2.settled_le (mem_declarationsFrom isSecond).start_le)

end

end Document

end LiterateTest
