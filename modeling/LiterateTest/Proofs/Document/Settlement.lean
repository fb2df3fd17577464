import LiterateTest.Proofs.Document.Declaration

/-! In which order the tests of a document come. Each is added where it is complete, so that a row
of a table comes before a test that is declared earlier and still waits. -/

namespace LiterateTest

namespace Declaration

/-- Whether a test is complete before another one, or is an earlier row of the same table. -/
def SettledBefore (first second : Declaration) : Prop :=
  first.settled < second.settled ∨ (first.settled = second.settled ∧ first.row < second.row)

section

variable {frontMatter : FrontMatter} {sourceDir : String}

/-! ## Rows -/

theorem map_fixture_ofRows (position : Nat) (block : Block) :
    (ofRows frontMatter sourceDir position block).map Declaration.fixture =
      block.rowFixtures frontMatter sourceDir := by
  cases block with
  | table headers rows =>
      rw [ofRows, Block.rowFixtures, List.map_filterMap]
      congr 1
      funext numbered
      rcases numbered with ⟨cells, row⟩
      simp only [ofRow?]
      split <;> rfl
  | heading level text => rfl
  | code language content => rfl
  | list items => rfl

theorem settledBefore_ofRows (position : Nat) (block : Block) :
    (ofRows frontMatter sourceDir position block).Pairwise SettledBefore := by
  refine (pairwise_ofRows position block).imp_of_mem ?_
  intro first second isFirst isSecond less
  exact .inr ⟨(mem_ofRows isFirst).2.1.trans (mem_ofRows isSecond).2.1.symm, less⟩

theorem map_fixture_rowsOfBody (position : Nat) (body : List Block) :
    (rowsOfBody frontMatter sourceDir position body).map Declaration.fixture =
      body.flatMap (Block.rowFixtures frontMatter sourceDir) := by
  induction body generalizing position with
  | nil => rfl
  | cons block after induction =>
      rw [rowsOfBody, List.map_append, map_fixture_ofRows, induction, List.flatMap_cons]

theorem settledBefore_rowsOfBody (position : Nat) (body : List Block) :
    (rowsOfBody frontMatter sourceDir position body).Pairwise SettledBefore := by
  induction body generalizing position with
  | nil => exact .nil
  | cons block after induction =>
      refine List.pairwise_append.mpr ⟨settledBefore_ofRows position block, induction _, ?_⟩
      intro first isFirst second isSecond
      have own := mem_ofRows isFirst
      have later := (mem_rowsOfBody isSecond).2
      left
      omega

/-! ## Commands -/

def ofCommandCode? (frontMatter : FrontMatter) (sourceDir name : String) (overrides : Overrides)
    (body : List Block) (command : String × String) : Option Fixture :=
  if name.isEmpty || Text.isBlankText command.2 then none
  else
    some (CommandBlock.fixture name frontMatter sourceDir overrides
      (Language.command command.1 command.2) (CommandBlock.validations body))

theorem chosen?_eq (body : List Block) :
    CommandBlock.chosen? frontMatter body = body.findSome? (Block.command? frontMatter) := by
  induction body with
  | nil => rfl
  | cons block after induction =>
      rw [CommandBlock.chosen?] at induction ⊢
      cases block with
      | code language content =>
          have fence : Block.fence? (.code language content) = some (language, content) := rfl
          rw [List.filterMap_cons_some fence, List.find?_cons, List.findSome?_cons, ← induction,
            Block.command?]
          dsimp only
          cases !Language.isFrontMatter language && frontMatter.allowsLanguage language <;> rfl
      | heading level text => exact induction
      | list items => exact induction
      | table headers rows => exact induction

theorem commandFixture?_eq (name : String) (overrides : Overrides) (body : List Block) :
    CommandBlock.fixture? name frontMatter sourceDir overrides body =
      (body.findSome? (Block.command? frontMatter)).bind
        (ofCommandCode? frontMatter sourceDir name overrides body) := by
  rw [CommandBlock.fixture?, chosen?_eq]
  cases body.findSome? (Block.command? frontMatter) <;> rfl

theorem ofCommand_eq {name : String} {before : List Block} {block : Block} {after : List Block}
    {overrides : Overrides}
    (read : CommandBlock.overrides (before ++ block :: after) = .ok overrides)
    (free : ∀ other ∈ before, other.command? frontMatter = none) (position : Nat) :
    ofCommand frontMatter sourceDir name before position block after =
      (((block.command? frontMatter).bind
        (ofCommandCode? frontMatter sourceDir name overrides (before ++ block :: after))).map
          fun fixture => { position, settled := position + 1 + after.length, fixture }).toList := by
  have isFirst : (before.any fun other => (other.command? frontMatter).isSome) = false := by
    simpa using free
  rw [ofCommand]
  cases block.command? frontMatter with
  | none => rfl
  | some command =>
      simp only [isFirst, read, Option.bind_some, ofCommandCode?]
      cases name.isEmpty || Text.isBlankText command.2 <;> rfl

variable (sourceDir) in
theorem exists_command {heading : Option Heading} {name : String}
    (isCommand : heading.bind CommandBlock.name? = some name) {overrides : Overrides}
    {whole : List Block} (read : CommandBlock.overrides whole = .ok overrides)
    {before body : List Block} (split : whole = before ++ body)
    (free : ∀ other ∈ before, other.command? frontMatter = none) (position : Nat) :
    ∃ command : Option Declaration,
      (ofBody frontMatter sourceDir heading before position body).Perm
        (rowsOfBody frontMatter sourceDir position body ++ command.toList) ∧
      command.map Declaration.fixture =
        (body.findSome? (Block.command? frontMatter)).bind
          (ofCommandCode? frontMatter sourceDir name overrides whole) ∧
      ∀ declaration ∈ command, declaration.settled = position + body.length := by
  induction body generalizing before position with
  | nil => exact ⟨none, .nil, rfl, by simp⟩
  | cons block after induction =>
      have readHere : CommandBlock.overrides (before ++ block :: after) = .ok overrides :=
        split ▸ read
      rw [ofBody, ofBlock, isCommand, rowsOfBody, List.findSome?_cons]
      dsimp only
      rw [ofCommand_eq readHere free, ← split]
      simp only [List.append_assoc]
      cases found : block.command? frontMatter with
      | none =>
          have still : ∀ other ∈ before ++ [block], other.command? frontMatter = none := by
            simpa [or_imp, forall_and] using ⟨free, found⟩
          rcases induction (split.trans (List.append_cons ..)) still (position + 1) with
            ⟨command, perm, test, settled⟩
          refine ⟨command, perm.append_left _, test, ?_⟩
          intro declaration member
          rw [settled declaration member, List.length_cons]
          omega
      | some code =>
          have takes : (block.command? frontMatter).isSome = true := by rw [found]; rfl
          rw [ofBody_of_taken isCommand takes (List.mem_append_right before List.mem_cons_self)]
          refine ⟨_, List.perm_append_comm.append_left _, ?_, ?_⟩
          · rw [Option.map_map]
            exact congrFun Option.map_id _
          · intro declaration member
            rcases Option.map_eq_some_iff.mp member with ⟨fixture, -, rfl⟩
            simp only [List.length_cons]
            omega

theorem exists_settled_of_command {heading : Option Heading} {name : String}
    (isCommand : heading.bind CommandBlock.name? = some name) {body : List Block}
    {tests : List Fixture}
    (found : CommandBlock.fixtures name frontMatter sourceDir body = .ok tests) (position : Nat) :
    ∃ settled : List Declaration,
      settled.Perm (ofBody frontMatter sourceDir heading [] position body) ∧
        settled.map Declaration.fixture = tests ∧ settled.Pairwise SettledBefore := by
  rw [CommandBlock.fixtures] at found
  cases read : CommandBlock.overrides body with
  | error fault =>
      rw [read] at found
      cases found
  | ok overrides =>
      rw [read] at found
      cases found
      rcases exists_command sourceDir isCommand read (List.nil_append body).symm (by simp)
        position with ⟨command, perm, test, settled⟩
      refine ⟨_, perm.symm, ?_, ?_⟩
      · rw [List.map_append, map_fixture_rowsOfBody, commandFixture?_eq, ← test]
        cases command <;> rfl
      · refine List.pairwise_append.mpr ⟨settledBefore_rowsOfBody position body, ?_, ?_⟩
        · cases command with
          | none => exact .nil
          | some declaration => exact List.pairwise_singleton _ declaration
        · intro row isRow last isLast
          have before := (mem_rowsOfBody isRow).2.2
          have own := settled last (Option.mem_toList.mp isLast)
          left
          omega

/-! ## Standalone code -/

def ofWaiting (frontMatter : FrontMatter) (sourceDir : String)
    (waiting : Option (Nat × StandaloneBlock)) (settled : Nat) (validations : List String) :
    List Declaration :=
  Option.toList <| waiting.bind fun (position, code) =>
    (code.fixture? frontMatter sourceDir validations).map fun fixture =>
      { position, settled, fixture }

theorem map_fixture_ofWaiting (waiting : Option (Nat × StandaloneBlock)) (settled : Nat)
    (validations : List String) :
    (ofWaiting frontMatter sourceDir waiting settled validations).map Declaration.fixture =
      StandaloneBlock.fixtures.finish frontMatter sourceDir (waiting.map Prod.snd) validations := by
  cases waiting with
  | none => rfl
  | some waits =>
      rcases waits with ⟨position, code⟩
      rw [ofWaiting, StandaloneBlock.fixtures.finish, Option.map_some, Option.bind_some,
        Option.bind_some]
      dsimp only
      cases code.fixture? frontMatter sourceDir validations <;> rfl

theorem settled_ofWaiting {waiting : Option (Nat × StandaloneBlock)} {settled : Nat}
    {validations : List String} {declaration : Declaration}
    (member : declaration ∈ ofWaiting frontMatter sourceDir waiting settled validations) :
    declaration.settled = settled := by
  rcases Option.bind_eq_some_iff.mp (Option.mem_toList.mp member) with ⟨code, -, found⟩
  rcases Option.map_eq_some_iff.mp found with ⟨fixture, -, rfl⟩
  rfl

theorem settledBefore_ofWaiting (waiting : Option (Nat × StandaloneBlock)) (settled : Nat)
    (validations : List String) :
    (ofWaiting frontMatter sourceDir waiting settled validations).Pairwise SettledBefore := by
  rw [ofWaiting]
  cases waiting.bind _ with
  | none => exact .nil
  | some declaration => exact List.pairwise_singleton _ declaration

def waitLength (body : List Block) : Nat := (body.takeWhile fun other => !other.settles).length

/-- What one block does outside of commands: some tests are complete, and code goes on to wait. -/
structure Step (frontMatter : FrontMatter) (sourceDir : String) (title : Option String)
    (position : Nat) (block : Block) (after : List Block)
    (waiting next : Option (Nat × StandaloneBlock)) (now : List Declaration) : Prop where
  tests : StandaloneBlock.fixtures title frontMatter sourceDir (waiting.map Prod.snd)
      (block :: after) =
    now.map Declaration.fixture
      ++ StandaloneBlock.fixtures title frontMatter sourceDir (next.map Prod.snd) after
  declared : List.Perm
    (now ++ ofWaiting frontMatter sourceDir next (position + 1 + waitLength after)
      (StandaloneBlock.validationsIn after))
    (ofWaiting frontMatter sourceDir waiting (position + waitLength (block :: after))
        (StandaloneBlock.validationsIn (block :: after))
      ++ (ofRows frontMatter sourceDir position block
        ++ ofStandalone frontMatter sourceDir title position block after))
  settled : ∀ declaration ∈ now, declaration.settled = position
  ordered : now.Pairwise SettledBefore

namespace Step

variable {title : Option String} {position : Nat} {block : Block} {after : List Block}

theorem of_standalone {language code : String} (found : block.standalone? = some (language, code))
    (waiting : Option (Nat × StandaloneBlock)) :
    Step frontMatter sourceDir title position block after waiting
      (some (position, { name := title.getD (language ++ "-block"), language, code }))
      (ofWaiting frontMatter sourceDir waiting position []) := by
  have settles : block.settles = true := by rw [Block.settles, found]; rfl
  have noWait : waitLength (block :: after) = 0 := by
    rw [waitLength, List.takeWhile_cons_of_neg (by simp [settles]), List.length_nil]
  have noValidations : StandaloneBlock.validationsIn (block :: after) = [] := by
    rw [StandaloneBlock.validationsIn, List.takeWhile_cons_of_neg (by simp [found])]
    rfl
  constructor
  case tests =>
    rw [map_fixture_ofWaiting]
    cases block with
    | code kind content =>
        rw [Block.standalone?] at found
        split at found
        · next isStandalone =>
            cases found
            rw [StandaloneBlock.fixtures, if_pos isStandalone]
            rfl
        · cases found
    | heading level text => cases found
    | list items => cases found
    | table headers rows => cases found
  case declared =>
    have noRows : ofRows frontMatter sourceDir position block = [] := by
      cases block with
      | table headers rows => cases found
      | code kind content => rfl
      | heading level text => rfl
      | list items => rfl
    rw [noWait, noValidations, noRows, ofStandalone, found]
    exact .refl _
  case settled => exact fun declaration member => settled_ofWaiting member
  case ordered => exact settledBefore_ofWaiting waiting position []

theorem of_validations {validations : List String} (found : block.validations? = some validations)
    (waiting : Option (Nat × StandaloneBlock)) :
    Step frontMatter sourceDir title position block after waiting none
      (ofWaiting frontMatter sourceDir waiting position validations) := by
  cases block with
  | heading level text => cases found
  | code language content => cases found
  | table headers rows => cases found
  | list items =>
      have settles : (Block.list items).settles = true := by rw [Block.settles, found]; rfl
      have noWait : waitLength (.list items :: after) = 0 := by
        rw [waitLength, List.takeWhile_cons_of_neg (by simp [settles]), List.length_nil]
      have own : StandaloneBlock.validationsIn (.list items :: after) = validations := by
        rw [StandaloneBlock.validationsIn, List.takeWhile_cons_of_pos rfl, List.findSome?_cons,
          found]
        rfl
      constructor
      case tests =>
        rw [map_fixture_ofWaiting, StandaloneBlock.fixtures]
        simp only [found]
        rfl
      case declared =>
        rw [noWait, own]
        exact .refl _
      case settled => exact fun declaration member => settled_ofWaiting member
      case ordered => exact settledBefore_ofWaiting waiting position validations

theorem of_other (noCode : block.standalone? = none) (noList : block.validations? = none)
    (waiting : Option (Nat × StandaloneBlock)) :
    Step frontMatter sourceDir title position block after waiting waiting
      (ofRows frontMatter sourceDir position block) := by
  have waits : block.settles = false := by rw [Block.settles, noCode, noList]; rfl
  have wait : position + waitLength (block :: after) = position + 1 + waitLength after := by
    rw [waitLength, List.takeWhile_cons_of_pos (by simp [waits]), List.length_cons, waitLength]
    omega
  have validations : StandaloneBlock.validationsIn (block :: after) =
      StandaloneBlock.validationsIn after := by
    rw [StandaloneBlock.validationsIn, List.takeWhile_cons_of_pos (by simp [noCode]),
      List.findSome?_cons, noList]
    rfl
  constructor
  case tests =>
    rw [map_fixture_ofRows]
    cases block with
    | heading level text => rfl
    | table headers rows => rfl
    | code language content =>
        rw [Block.standalone?] at noCode
        split at noCode
        · cases noCode
        · next notStandalone =>
            rw [StandaloneBlock.fixtures, if_neg notStandalone]
            rfl
    | list items =>
        rw [StandaloneBlock.fixtures]
        simp only [noList]
        rfl
  case declared =>
    rw [wait, validations, ofStandalone, noCode, List.append_nil]
    exact List.perm_append_comm
  case settled => exact fun declaration member => (mem_ofRows member).2.1
  case ordered => exact settledBefore_ofRows position block

end Step

variable (frontMatter sourceDir) in
theorem exists_step (title : Option String) (position : Nat) (block : Block) (after : List Block)
    (waiting : Option (Nat × StandaloneBlock)) :
    ∃ next now, Step frontMatter sourceDir title position block after waiting next now := by
  cases code : block.standalone? with
  | some found => exact ⟨_, _, .of_standalone code waiting⟩
  | none =>
      cases list : block.validations? with
      | some validations => exact ⟨_, _, .of_validations list waiting⟩
      | none => exact ⟨_, _, .of_other code list waiting⟩

theorem exists_settled_of_waiting {heading : Option Heading}
    (noCommand : heading.bind CommandBlock.name? = none)
    (waiting : Option (Nat × StandaloneBlock)) (before : List Block) (position : Nat)
    (body : List Block) :
    ∃ settled : List Declaration,
      settled.Perm
        (ofWaiting frontMatter sourceDir waiting (position + waitLength body)
            (StandaloneBlock.validationsIn body)
          ++ ofBody frontMatter sourceDir heading before position body) ∧
      settled.map Declaration.fixture =
        StandaloneBlock.fixtures (heading.map Heading.text) frontMatter sourceDir
          (waiting.map Prod.snd) body ∧
      settled.Pairwise SettledBefore ∧
      ∀ declaration ∈ settled, position ≤ declaration.settled := by
  induction body generalizing waiting before position with
  | nil =>
      refine ⟨ofWaiting frontMatter sourceDir waiting position [], ?_, ?_, ?_, ?_⟩
      · rw [ofBody, List.append_nil]
        exact .refl _
      · exact map_fixture_ofWaiting waiting position []
      · exact settledBefore_ofWaiting waiting position []
      · exact fun declaration member => Nat.le_of_eq (settled_ofWaiting member).symm
  | cons block after induction =>
      rcases exists_step frontMatter sourceDir (heading.map Heading.text) position block after
        waiting with ⟨next, now, step⟩
      rcases induction next (before ++ [block]) (position + 1) with
        ⟨later, perm, tests, ordered, isLater⟩
      refine ⟨now ++ later, ?_, ?_, ?_, ?_⟩
      · rw [ofBody, ofBlock, noCommand]
        dsimp only
        rw [← List.append_assoc]
        refine (perm.append_left now).trans ?_
        rw [← List.append_assoc]
        exact step.declared.append_right _
      · rw [step.tests, ← tests, List.map_append]
      · refine List.pairwise_append.mpr ⟨step.ordered, ordered, ?_⟩
        intro first isFirst second isSecond
        have early := step.settled first isFirst
        have late := isLater second isSecond
        left
        omega
      · intro declaration member
        rcases List.mem_append.mp member with member | member
        · exact Nat.le_of_eq (step.settled declaration member).symm
        · exact Nat.le_of_succ_le (isLater declaration member)

theorem exists_settled_of_segment {segment : Segment} {tests : List Fixture}
    (found : segment.fixtures frontMatter sourceDir = .ok tests) (position : Nat) :
    ∃ settled : List Declaration,
      settled.Perm (ofBody frontMatter sourceDir segment.heading [] position segment.body) ∧
        settled.map Declaration.fixture = tests ∧ settled.Pairwise SettledBefore := by
  rw [Segment.fixtures, Segment.commandName?] at found
  cases isCommand : segment.heading.bind CommandBlock.name? with
  | some name =>
      rw [isCommand] at found
      exact exists_settled_of_command isCommand found position
  | none =>
      rw [isCommand] at found
      cases found
      rcases exists_settled_of_waiting isCommand none [] position segment.body with
        ⟨settled, perm, tests, ordered, -⟩
      exact ⟨settled, perm, tests, ordered⟩

/-! ## Documents -/

theorem noLater_iff {first second : Declaration} :
    noLater first second = true ↔
      first.settled < second.settled ∨
        (first.settled = second.settled ∧ first.row ≤ second.row) := by
  rw [noLater, Bool.or_eq_true, Bool.and_eq_true, decide_eq_true_iff, beq_iff_eq,
    decide_eq_true_iff]

theorem noLater_trans (first second third : Declaration)
    (one : noLater first second = true) (other : noLater second third = true) :
    noLater first third = true := by
  rw [noLater_iff] at one other ⊢
  omega

theorem noLater_total (first second : Declaration) :
    (noLater first second || noLater second first) = true := by
  rw [Bool.or_eq_true, noLater_iff, noLater_iff]
  omega

theorem mergeSort_eq {declared settled : List Declaration} (perm : settled.Perm declared)
    (ordered : settled.Pairwise SettledBefore) : declared.mergeSort noLater = settled := by
  have sorted : (declared.mergeSort noLater).Pairwise fun first second =>
      noLater first second = true :=
    List.pairwise_mergeSort noLater_trans noLater_total declared
  have weak : settled.Pairwise fun first second => noLater first second = true := by
    refine ordered.imp ?_
    intro first second before
    rw [noLater_iff]
    rcases before with less | ⟨same, less⟩ <;> omega
  have unlike {first second : Declaration} (before : SettledBefore first second) :
      ¬noLater second first = true := by
    rw [noLater_iff]
    rcases before with less | ⟨same, less⟩ <;> omega
  refine List.Perm.eq_of_pairwise ?_ sorted weak ((List.mergeSort_perm ..).trans perm.symm)
  intro first second isFirst isSecond
  -- Two tests of which none is later than the other are the same one.
  refine List.Pairwise.forall_of_forall_of_flip
    (R := fun first second => noLater first second = true → noLater second first = true →
      first = second) ?_ ?_ ?_ (perm.symm.subset (List.mem_mergeSort.mp isFirst)) isSecond
  · exact fun _ _ _ _ => rfl
  · exact ordered.imp fun before one other => absurd other (unlike before)
  · exact ordered.imp fun before one other => absurd one (unlike before)

end

end Declaration

end LiterateTest
