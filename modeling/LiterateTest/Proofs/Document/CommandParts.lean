import LiterateTest.Proofs.Document.Field
import LiterateTest.Proofs.Document.Row
import LiterateTest.Proofs.Document.TestCount
import LiterateTest.Proofs.Record

/-! What the test of a command is made from: the name in the heading, the first code that can be
its command, the front matter and the lists of validations. It does not matter how these stand
between each other, nor what else stands there. -/

namespace LiterateTest

/-! ## Front matter of commands -/

namespace Overrides

structure IsSorted (overrides : Overrides) : Prop where
  env : overrides.env.keys.Pairwise (· < ·)
  tempFiles : overrides.tempFiles.keys.Pairwise (· < ·)

theorem isSorted_empty : IsSorted {} := ⟨.nil, .nil⟩

theorem sorted_env? {node : Yaml.Node} {env : Record String} (read : node.env? = some env) :
    env.keys.Pairwise (· < ·) := by
  rcases Option.map_eq_some_iff.mp read with ⟨entries, -, rfl⟩
  exact Record.sorted_ofList _

theorem exists_of_map_orMalformed {α β : Type} {value : Option α} {make : α → β} {result : β}
    (read : (Yaml.Node.orMalformed value).map make = .ok result) :
    ∃ found, value = some found ∧ make found = result := by
  cases value with
  | none => cases read
  | some found => exact ⟨found, rfl, Except.ok.inj read⟩

theorem IsSorted.setField {overrides next : Overrides} (sorted : overrides.IsSorted)
    {field : String × Yaml.Node} (read : overrides.setField field = .ok next) : next.IsSorted := by
  unfold Overrides.setField at read
  split at read
  · rcases exists_of_map_orMalformed read with ⟨cwd, -, rfl⟩
    exact ⟨sorted.env, sorted.tempFiles⟩
  · rcases exists_of_map_orMalformed read with ⟨exitCode, -, rfl⟩
    exact ⟨sorted.env, sorted.tempFiles⟩
  · rcases exists_of_map_orMalformed read with ⟨env, found, rfl⟩
    exact ⟨sorted_env? found, sorted.tempFiles⟩
  · next node =>
      cases timeout : node.timeout with
      | error fault =>
          rw [timeout] at read
          cases read
      | ok timeout =>
          rw [timeout] at read
          cases read
          exact ⟨sorted.env, sorted.tempFiles⟩
  · rcases exists_of_map_orMalformed read with ⟨entries, -, rfl⟩
    exact ⟨sorted.env, Record.sorted_ofList entries⟩
  · cases read
    exact sorted

theorem isSorted_ofYaml {yaml : String} {overrides : Overrides}
    (read : ofYaml yaml = .ok overrides) : overrides.IsSorted :=
  readFields_kept (fun sorted written => sorted.setField written) isSorted_empty read

theorem exists_mapM_ofYaml {yamls : List String}
    (wellFormed : ∀ yaml ∈ yamls, ∃ own, ofYaml yaml = .ok own) :
    ∃ all, yamls.mapM ofYaml = .ok all ∧ ∀ own ∈ all, own.IsSorted := by
  induction yamls with
  | nil => exact ⟨[], rfl, by simp⟩
  | cons yaml rest induction =>
      rw [List.forall_mem_cons] at wellFormed
      rcases wellFormed with ⟨⟨first, read⟩, others⟩
      rcases induction others with ⟨all, readAll, sorted⟩
      refine ⟨first :: all, ?_, List.forall_mem_cons.mpr ⟨isSorted_ofYaml read, sorted⟩⟩
      rw [List.mapM_cons, read, readAll]
      rfl

theorem IsSorted.merge {current : Overrides} (sorted : current.IsSorted) (next : Overrides) :
    (current.merge next).IsSorted :=
  ⟨Record.sorted_extend next.env sorted.env, Record.sorted_extend next.tempFiles sorted.tempFiles⟩

theorem IsSorted.foldl_merge {start : Overrides} (sorted : start.IsSorted)
    (all : List Overrides) : (all.foldl Overrides.merge start).IsSorted := by
  induction all generalizing start with
  | nil => exact sorted
  | cons next rest induction => exact induction (sorted.merge next)

theorem foldl_merge_eq {α : Type} (setting : Overrides → Option α) {all : List Overrides}
    (wins : ∀ current, ∀ next ∈ all,
      setting (current.merge next) = (setting next).or (setting current)) (start : Overrides) :
    setting (all.foldl merge start) = (all.filterMap setting).getLast?.or (setting start) := by
  induction all generalizing start with
  | nil => rfl
  | cons next rest induction =>
      rw [List.foldl_cons,
        induction (fun current other member => wins current other (List.mem_cons_of_mem _ member)),
        wins start next List.mem_cons_self]
      cases found : setting next with
      | none => rw [List.filterMap_cons_none found, Option.none_or]
      | some value =>
          rw [List.filterMap_cons_some found, List.getLast?_cons]
          cases (rest.filterMap setting).getLast? <;> rfl

end Overrides

/-! ## Parts -/

namespace Block

def frontMatter? : Block → Option String
  | code language yaml => if Language.isFrontMatter language then some yaml else none
  | _ => none

def isFrontMatter : Block → Bool
  | code language _ => Language.isFrontMatter language
  | _ => false

def isOtherCode : Block → Bool
  | code language _ => !Language.isFrontMatter language
  | _ => false

def isList : Block → Bool
  | list _ => true
  | _ => false

end Block

structure CommandParts where
  /-- The code that is the command, with its language. -/
  code : Option (String × String)
  /-- The texts of the front matter. -/
  yamls : List String
  /-- The lists that are marked as validations. -/
  validations : List (List String)
  deriving DecidableEq, Repr

/-- Whether blocks have another order, in which front matter, other code and lists each keep
theirs. -/
structure CommandBlock.Reorders (body reordered : List Block) : Prop where
  perm : reordered.Perm body
  frontMatter : reordered.filter Block.isFrontMatter = body.filter Block.isFrontMatter
  otherCode : reordered.filter Block.isOtherCode = body.filter Block.isOtherCode
  lists : reordered.filter Block.isList = body.filter Block.isList

theorem Block.filterMap_eq_of_filter_eq {α : Type} {part : Block → Option α} {kind : Block → Bool}
    (only : ∀ block, kind block = false → part block = none) {first second : List Block}
    (same : first.filter kind = second.filter kind) :
    first.filterMap part = second.filterMap part := by
  have skip (blocks : List Block) :
      blocks.filterMap part = (blocks.filter kind).filterMap part := by
    rw [List.filterMap_filter]
    congr 1
    funext block
    cases isKind : kind block with
    | true => rfl
    | false => exact only block isKind
  rw [skip first, skip second, same]

namespace CommandParts

def ofBody (frontMatter : FrontMatter) (body : List Block) : CommandParts where
  code := CommandBlock.chosen? frontMatter body
  yamls := body.filterMap Block.frontMatter?
  validations := body.filterMap Block.validations?

def overrides (parts : CommandParts) : Except Fault Overrides := do
  let all ← parts.yamls.mapM Overrides.ofYaml
  return all.foldl Overrides.merge {}

def fixture? (name : String) (frontMatter : FrontMatter) (sourceDir : String)
    (overrides : Overrides) (parts : CommandParts) : Option Fixture :=
  parts.code.bind fun (language, code) =>
    if name.isEmpty || Text.isBlankText code then none
    else
      some (CommandBlock.fixture name frontMatter sourceDir overrides
        (Language.command language code) parts.validations.flatten)

section

variable {frontMatter : FrontMatter} {sourceDir : String} {body : List Block}

theorem overrides_ofBody (frontMatter : FrontMatter) (body : List Block) :
    CommandBlock.overrides body = (ofBody frontMatter body).overrides := by
  have texts : body.filterMap Block.frontMatter? =
      ((body.filterMap Block.fence?).filter fun fence => Language.isFrontMatter fence.1).map
        Prod.snd := by
    induction body with
    | nil => rfl
    | cons block rest induction =>
        cases block with
        | code language yaml =>
            have fence : Block.fence? (.code language yaml) = some (language, yaml) := rfl
            rw [List.filterMap_cons, Block.frontMatter?, List.filterMap_cons_some fence,
              List.filter_cons, induction]
            cases Language.isFrontMatter language <;> rfl
        | heading level text => exact induction
        | list items => exact induction
        | table headers rows => exact induction
  rw [overrides, ofBody, texts, List.mapM_map]
  rfl

theorem fixture?_ofBody (name : String) (overrides : Overrides) (body : List Block) :
    CommandBlock.fixture? name frontMatter sourceDir overrides body =
      (ofBody frontMatter body).fixture? name frontMatter sourceDir overrides := by
  rw [CommandBlock.fixture?, fixture?, ofBody]
  cases CommandBlock.chosen? frontMatter body <;> rfl

theorem isSome_fixture?_ofBody (name : String) (overrides : Overrides) (body : List Block) :
    ((ofBody frontMatter body).fixture? name frontMatter sourceDir overrides).isSome =
      CommandBlock.runs frontMatter (name, body) := by
  rw [fixture?, ofBody, Declaration.chosen?_eq, CommandBlock.runs]
  cases body.findSome? (Block.command? frontMatter) with
  | none => simp
  | some code =>
      rw [Option.bind_some, Option.any_some]
      dsimp only
      cases name.isEmpty <;> cases Text.isBlankText code.2 <;> rfl

theorem ofBody_of_reorders {reordered : List Block}
    (reorders : CommandBlock.Reorders body reordered) :
    ofBody frontMatter reordered = ofBody frontMatter body := by
  have code : CommandBlock.chosen? frontMatter reordered =
      CommandBlock.chosen? frontMatter body := by
    rw [Declaration.chosen?_eq, Declaration.chosen?_eq, ← List.head?_filterMap,
      ← List.head?_filterMap]
    apply congrArg
    apply Block.filterMap_eq_of_filter_eq _ reorders.otherCode
    intro block noCode
    cases block with
    | code language content =>
        have isFrontMatter : Language.isFrontMatter language = true := by
          simpa [Block.isOtherCode] using noCode
        rw [Block.command?, isFrontMatter]
        rfl
    | heading level text => rfl
    | list items => rfl
    | table headers rows => rfl
  have yamls : reordered.filterMap Block.frontMatter? = body.filterMap Block.frontMatter? := by
    apply Block.filterMap_eq_of_filter_eq _ reorders.frontMatter
    intro block noFrontMatter
    cases block with
    | code language content =>
        rw [Block.isFrontMatter] at noFrontMatter
        rw [Block.frontMatter?, noFrontMatter]
        rfl
    | heading level text => rfl
    | list items => rfl
    | table headers rows => rfl
  have lists : reordered.filterMap Block.validations? = body.filterMap Block.validations? := by
    apply Block.filterMap_eq_of_filter_eq _ reorders.lists
    intro block noList
    cases block with
    | list items => cases noList
    | heading level text => rfl
    | code language content => rfl
    | table headers rows => rfl
  rw [ofBody, code, yamls, lists]
  rfl

theorem of_code {language code : String}
    (found : (ofBody frontMatter body).code = some (language, code)) :
    .code language code ∈ body ∧ Language.isFrontMatter language = false ∧
      frontMatter.allowsLanguage language = true := by
  have allowed := List.find?_some found
  rw [Bool.and_eq_true, Bool.not_eq_true'] at allowed
  rcases List.mem_filterMap.mp (List.mem_of_find?_eq_some found) with ⟨block, member, fence⟩
  cases block with
  | code other content =>
      cases fence
      exact ⟨member, allowed⟩
  | heading level text => cases fence
  | list items => cases fence
  | table headers rows => cases fence

end

structure SetBy (frontMatter : FrontMatter) (all : List Overrides) (fixture : Fixture) : Prop where
  env : ∀ key, Record.get? key fixture.env =
    (all.filterMap fun own => Record.get? key own.env).getLast?.or
      (Record.get? key frontMatter.env)
  cwd : fixture.cwd = (all.filterMap Overrides.cwd).getLast?.getD frontMatter.cwd
  exitCode : fixture.expected.exitCode = (all.filterMap Overrides.exitCode).getLast?
  timeout : fixture.timeout = (all.filterMap Overrides.timeout).getLast?

theorem setBy_fixture {all : List Overrides} (sorted : ∀ own ∈ all, own.IsSorted) (name : String)
    (frontMatter : FrontMatter) (sourceDir : String) (command : Command)
    (validations : List String) :
    SetBy frontMatter all
      (CommandBlock.fixture name frontMatter sourceDir (all.foldl Overrides.merge {}) command
        validations) := by
  have orElse_eq {α : Type} (next current : Option α) :
      (next.orElse fun _ => current) = next.or current := by
    cases next <;> rfl
  have merged : (all.foldl Overrides.merge {}).IsSorted :=
    Overrides.isSorted_empty.foldl_merge all
  have env (key : String) := Overrides.foldl_merge_eq (fun own => Record.get? key own.env)
    (fun current next member => Record.get?_extend (sorted next member).env key current.env) {}
  have cwd := Overrides.foldl_merge_eq Overrides.cwd
    (fun current next (_ : next ∈ all) => orElse_eq next.cwd current.cwd) {}
  have exitCode := Overrides.foldl_merge_eq Overrides.exitCode
    (fun current next (_ : next ∈ all) => orElse_eq next.exitCode current.exitCode) {}
  have timeout := Overrides.foldl_merge_eq Overrides.timeout
    (fun current next (_ : next ∈ all) => orElse_eq next.timeout current.timeout) {}
  refine { env := ?_, cwd := ?_, exitCode := ?_, timeout := ?_ }
  · intro key
    rw [CommandBlock.fixture]
    change Record.get? key (frontMatter.env.extend _) = _
    rw [Record.get?_extend merged.env, env key, Record.get?, Option.or_none]
  · rw [CommandBlock.fixture]
    change (all.foldl Overrides.merge {}).cwd.getD frontMatter.cwd = _
    rw [cwd, Option.or_none]
  · rw [CommandBlock.fixture]
    change (Expectations.pushExpression _ _).exitCode = _
    rw [Expectations.exitCode_pushExpression, exitCode, Option.or_none]
  · rw [CommandBlock.fixture]
    change (all.foldl Overrides.merge {}).timeout = _
    rw [timeout, Option.or_none]

end CommandParts

/-! ## Segments of commands -/

theorem Segment.ofBlocks_of_plain {body : List Block}
    (plain : ∀ block ∈ body, block.isPlain = true) : ofBlocks body = ({ body }, []) := by
  induction body with
  | nil => rfl
  | cons block rest induction =>
      rw [List.forall_mem_cons] at plain
      cases block with
      | heading level text => cases plain.1
      | code language content => simp only [ofBlocks, induction plain.2]
      | list items => simp only [ofBlocks, induction plain.2]
      | table headers rows => simp only [ofBlocks, induction plain.2]

namespace Document

variable {frontMatter : FrontMatter} {sourceDir : String}

theorem fixtures_segment {body : List Block} (plain : ∀ block ∈ body, block.isPlain = true)
    (heading : Heading) :
    fixtures (.heading heading.level heading.text :: body) frontMatter sourceDir =
      Segment.fixtures { heading := some heading, body } frontMatter sourceDir := by
  have all : Segment.all (.heading heading.level heading.text :: body) =
      [{}, { heading := some heading, body }] := by
    rw [Segment.all, Segment.ofBlocks, Segment.ofBlocks_of_plain plain]
  rw [fixtures_eq, all, fixturesOf, fixturesOf]
  cases own : Segment.fixtures { heading := some heading, body } frontMatter sourceDir with
  | error fault => rfl
  | ok tests => exact congrArg Except.ok (List.append_nil tests)

end Document

namespace CommandBlock

/-- Whether a command adds a test, or none, to each document that it is put into, behind the rows of
its tables. -/
def Adds (frontMatter : FrontMatter) (sourceDir : String) (heading : Heading) (body : List Block)
    (test : Option Fixture) : Prop :=
  ∀ (name : String) (before after : List Block) (first second : Node),
    Document.BeginsWithHeading after →
    Document.ofBlocks name before frontMatter sourceDir = .ok first →
    Document.ofBlocks name after frontMatter sourceDir = .ok second →
    ∃ root,
      Document.ofBlocks name
        (before ++ (.heading heading.level heading.text :: body ++ after)) frontMatter sourceDir =
        .ok root ∧
      root.payloads = first.payloads ++
        ((body.flatMap (Block.rowFixtures frontMatter sourceDir) ++ test.toList).map some
          ++ second.payloads)

variable {frontMatter : FrontMatter} {sourceDir : String} {heading : Heading} {name : String}
  {body : List Block}

theorem adds_fixture? (isCommand : name? heading = some name)
    (plain : ∀ block ∈ body, block.isPlain = true) {overrides : Overrides}
    (read : (CommandParts.ofBody frontMatter body).overrides = .ok overrides) :
    Adds frontMatter sourceDir heading body
      ((CommandParts.ofBody frontMatter body).fixture? name frontMatter sourceDir overrides) := by
  intro document before after first second begins readBefore readAfter
  have own : Document.fixtures (.heading heading.level heading.text :: body) frontMatter
      sourceDir =
      .ok (body.flatMap (Block.rowFixtures frontMatter sourceDir)
        ++ ((CommandParts.ofBody frontMatter body).fixture? name frontMatter sourceDir
          overrides).toList) := by
    have isNamed : Segment.commandName? { heading := some heading, body } = some name := isCommand
    rw [Document.fixtures_segment plain, Segment.fixtures, isNamed]
    dsimp only
    rw [fixtures, CommandParts.overrides_ofBody frontMatter, read,
      ← CommandParts.fixture?_ofBody]
    rfl
  rcases Document.fixtures_of_ofBlocks readBefore with ⟨firstTests, foundBefore, firstPayloads⟩
  rcases Document.fixtures_of_ofBlocks readAfter with ⟨secondTests, foundAfter, secondPayloads⟩
  have joined := (Document.fixtures_append_eq_ok_iff begins).mpr
    ⟨_, _, own, foundAfter, rfl⟩
  have whole := (Document.fixtures_append_eq_ok_iff (.inr ⟨_, _, _, rfl⟩)).mpr
    ⟨_, _, foundBefore, joined, rfl⟩
  rcases Document.exists_ofBlocks document whole with ⟨root, read⟩
  rcases Document.fixtures_of_ofBlocks read with ⟨tests, found, payloads⟩
  cases whole.symm.trans found
  refine ⟨root, read, ?_⟩
  rw [payloads, firstPayloads, secondPayloads, List.map_append, List.map_append]

/-- The test of a command, which is there if the command has a name and code, is made from the parts
of the command. Where these are the same, as in each order that keeps those of front matter, other
code and lists, the test is the same. Its command is the first code that is allowed to be it, and
what front matter sets last is set in the end. -/
theorem adds_of_parts (frontMatter : FrontMatter) (sourceDir : String)
    (isCommand : name? heading = some name) (plain : ∀ block ∈ body, block.isPlain = true)
    (wellFormed : ∀ yaml ∈ body.filterMap Block.frontMatter?,
      ∃ own, Overrides.ofYaml yaml = .ok own) :
    ∃ all test, (body.filterMap Block.frontMatter?).mapM Overrides.ofYaml = .ok all ∧
      Adds frontMatter sourceDir heading body test ∧ test.isSome = runs frontMatter (name, body) ∧
      (∀ (other : Heading) (blocks : List Block), name? other = some name →
        (∀ block ∈ blocks, block.isPlain = true) →
        CommandParts.ofBody frontMatter blocks = CommandParts.ofBody frontMatter body →
        Adds frontMatter sourceDir other blocks test) ∧
      (∀ reordered, Reorders body reordered →
        Adds frontMatter sourceDir heading reordered test) ∧
      ∀ fixture ∈ test, fixture.name = name ∧
        (∃ language code,
          (CommandParts.ofBody frontMatter body).code = some (language, code) ∧
          .code language code ∈ body ∧ Language.isFrontMatter language = false ∧
          frontMatter.allowsLanguage language = true ∧
          fixture.command = Language.command language code) ∧
        CommandParts.SetBy frontMatter all fixture := by
  rcases Overrides.exists_mapM_ofYaml wellFormed with ⟨all, readAll, sorted⟩
  have read : (CommandParts.ofBody frontMatter body).overrides =
      .ok (all.foldl Overrides.merge {}) := by
    rw [CommandParts.overrides, CommandParts.ofBody, readAll]
    rfl
  have same (other : Heading) (blocks : List Block) (isOther : name? other = some name)
      (plainBlocks : ∀ block ∈ blocks, block.isPlain = true)
      (parts : CommandParts.ofBody frontMatter blocks = CommandParts.ofBody frontMatter body) :
      Adds frontMatter sourceDir other blocks
        ((CommandParts.ofBody frontMatter body).fixture? name frontMatter sourceDir
          (all.foldl Overrides.merge {})) := by
    rw [← parts] at read ⊢
    exact adds_fixture? isOther plainBlocks read
  refine ⟨all, _, readAll, same heading body isCommand plain rfl,
    CommandParts.isSome_fixture?_ofBody name _ body, same, ?_, ?_⟩
  · intro reordered reorders
    apply same heading reordered isCommand
    · intro block member
      exact plain block (reorders.perm.subset member)
    · exact CommandParts.ofBody_of_reorders reorders
  · intro fixture made
    rcases Option.bind_eq_some_iff.mp made with ⟨⟨language, code⟩, found, made⟩
    dsimp only at made
    split at made
    · cases made
    · cases made
      exact ⟨rfl, ⟨language, code, found, (CommandParts.of_code found).1,
        (CommandParts.of_code found).2.1, (CommandParts.of_code found).2.2, rfl⟩,
        CommandParts.setBy_fixture sorted ..⟩

theorem adds_of_parts_of_two_settings :
    let frontMatter : FrontMatter := { env := [("A", "file"), ("B", "file")], cwd := "sub" }
    let first : Block := .code "yaml" "env: \x7bA: one\x7d"
    let second : Block := .code "yml" "env: \x7bA: two\x7d\nexitCode: 3"
    let body : List Block :=
      [.code "python" "pass", first, .list ["contains: a"], .code "bash" "true", second]
    let reordered : List Block :=
      [first, second, .code "python" "pass", .code "bash" "true", .list ["contains: a"]]
    ∃ fixture, Adds frontMatter "/docs" ⟨2, "Command: go"⟩ body (some fixture) ∧
      Adds frontMatter "/docs" ⟨2, "Command: go"⟩ reordered (some fixture) ∧
      fixture.command = Language.command "bash" "true" ∧
      Record.get? "A" fixture.env = some "two" ∧ Record.get? "B" fixture.env = some "file" ∧
      fixture.cwd = "sub" ∧ fixture.expected.exitCode = some 3 := by
  intro frontMatter first second body reordered
  have wellFormed : ∀ yaml ∈ body.filterMap Block.frontMatter?,
      ∃ own, Overrides.ofYaml yaml = .ok own := by
    have isOk : ∀ yaml ∈ body.filterMap Block.frontMatter?,
        (Overrides.ofYaml yaml).isOk = true := by
      decide +kernel
    intro yaml member
    have found := isOk yaml member
    cases read : Overrides.ofYaml yaml with
    | error fault =>
        rw [read] at found
        cases found
    | ok own => exact ⟨own, rfl⟩
  have isCommand : name? ⟨2, "Command: go"⟩ = some "go" := by decide
  have plain : ∀ block ∈ body, block.isPlain = true := by decide
  rcases adds_of_parts frontMatter "/docs" isCommand plain wellFormed with
    ⟨all, test, readAll, adds, isTest, -, moves, facts⟩
  have settings : ((body.filterMap Block.frontMatter?).mapM Overrides.ofYaml).toOption =
      some [{ env := [("A", "one")] }, { env := [("A", "two")], exitCode := some 3 }] := by
    decide +kernel
  rw [readAll] at settings
  cases settings
  have runs : runs frontMatter ("go", body) = true := by decide
  rcases Option.isSome_iff_exists.mp (isTest.trans runs) with ⟨fixture, rfl⟩
  rcases facts fixture rfl with ⟨-, ⟨language, code, found, -, -, -, command⟩, setBy⟩
  have chosen : (CommandParts.ofBody frontMatter body).code = some ("bash", "true") := by decide
  cases chosen.symm.trans found
  have reorders : Reorders body reordered :=
    { perm := by decide, frontMatter := rfl, otherCode := rfl, lists := rfl }
  exact ⟨fixture, adds, moves reordered reorders, command, setBy.env "A", setBy.env "B",
    setBy.cwd, setBy.exitCode⟩

end CommandBlock

end LiterateTest
