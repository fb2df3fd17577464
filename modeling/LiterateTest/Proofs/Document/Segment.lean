import LiterateTest.Proofs.Document.Nesting

/-! Documents as their segments. The tests of a document are those of its segments one after the
other, and a document that begins with a heading can follow another one without a change to the
segments of either. -/

namespace LiterateTest

def Block.isPlain : Block → Bool
  | heading _ _ => false
  | _ => true

theorem Block.exists_heading {block : Block} (notPlain : block.isPlain = false) :
    ∃ level text, block = .heading level text := by
  cases block with
  | heading level text => exact ⟨level, text, rfl⟩
  | code language content => cases notPlain
  | list items => cases notPlain
  | table headers rows => cases notPlain

namespace Document

/-- Where a document can be cut without a segment being divided. -/
def BeginsWithHeading (blocks : List Block) : Prop :=
  blocks = [] ∨ ∃ level text rest, blocks = .heading level text :: rest

theorem BeginsWithHeading.first {blocks : List Block} (begins : BeginsWithHeading blocks) :
    (Segment.ofBlocks blocks).1 = {} := by
  rcases begins with rfl | ⟨level, text, rest, rfl⟩ <;> rfl

theorem BeginsWithHeading.append {first second : List Block} (begins : BeginsWithHeading first)
    (follows : BeginsWithHeading second) : BeginsWithHeading (first ++ second) := by
  rcases begins with rfl | ⟨level, text, rest, rfl⟩
  · exact follows
  · exact .inr ⟨level, text, rest ++ second, rfl⟩

end Document

/-! ## Segments -/

namespace Segment

def blocks (segment : Segment) : List Block :=
  (segment.heading.map fun heading => Block.heading heading.level heading.text).toList
    ++ segment.body

def all (blocks : List Block) : List Segment := (ofBlocks blocks).1 :: (ofBlocks blocks).2

theorem flatMap_blocks_all (document : List Block) : (all document).flatMap blocks = document := by
  induction document with
  | nil => rfl
  | cons block rest induction =>
      have body : (ofBlocks rest).1.body ++ (ofBlocks rest).2.flatMap blocks = rest := by
        rw [all, List.flatMap_cons, blocks, heading_first] at induction
        exact induction
      have first : (ofBlocks (block :: rest)).1.heading = none := heading_first _
      rw [all, List.flatMap_cons, blocks, first]
      cases block with
      | heading level text => exact congrArg (Block.heading level text :: ·) body
      | code language content => exact congrArg (Block.code language content :: ·) body
      | list items => exact congrArg (Block.list items :: ·) body
      | table headers rows => exact congrArg (Block.table headers rows :: ·) body

/-- Segments as they follow each other in a document. Only the first one can be without a heading,
and no body has a heading in it. -/
inductive Series : List Segment → Prop
  | nil : Series []
  | cons {segment : Segment} {rest : List Segment}
      (plain : ∀ block ∈ segment.body, block.isPlain = true)
      (begins : Document.BeginsWithHeading (rest.flatMap blocks)) (series : Series rest) :
      Series (segment :: rest)

theorem series_all (document : List Block) : Series (all document) := by
  induction document with
  | nil => exact .cons (by simp [ofBlocks]) (.inl rfl) .nil
  | cons block rest induction =>
      cases induction with
      | cons plain begins series =>
          -- A block other than a heading goes to the body of the first segment.
          have extended (isPlain : block.isPlain = true) :
              ∀ other ∈ block :: (ofBlocks rest).1.body, other.isPlain = true :=
            List.forall_mem_cons.mpr ⟨isPlain, plain⟩
          cases block with
          | heading level text =>
              have headed : Series
                  ({ (ofBlocks rest).1 with heading := some ⟨level, text⟩ } :: (ofBlocks rest).2) :=
                .cons plain begins series
              exact .cons (by simp [ofBlocks]) (.inr ⟨_, _, _, rfl⟩) headed
          | code language content => exact .cons (extended rfl) begins series
          | list items => exact .cons (extended rfl) begins series
          | table headers rows => exact .cons (extended rfl) begins series

theorem ofBlocks_append (first : List Block) {second : List Block}
    (begins : (ofBlocks second).1 = {}) :
    ofBlocks (first ++ second) =
      ((ofBlocks first).1, (ofBlocks first).2 ++ (ofBlocks second).2) := by
  induction first with
  | nil => exact Prod.ext begins rfl
  | cons block rest induction =>
      rw [List.cons_append]
      cases block <;> simp only [ofBlocks, induction, List.cons_append]

theorem all_append (first : List Block) {second : List Block}
    (begins : (ofBlocks second).1 = {}) :
    all (first ++ second) = all first ++ (ofBlocks second).2 := by
  rw [all, ofBlocks_append first begins]
  rfl

end Segment

def Segment.withTests (frontMatter : FrontMatter) (sourceDir : String) (segment : Segment) :
    Except Fault (Segment × List Fixture) := do
  let tests ← segment.fixtures frontMatter sourceDir
  return (segment, tests)

theorem Segment.exists_of_withTests_cons {frontMatter : FrontMatter} {sourceDir : String}
    {segment : Segment} {rest : List Segment} {parts : List (Segment × List Fixture)}
    (found : (segment :: rest).mapM (withTests frontMatter sourceDir) = .ok parts) :
    ∃ tests others, segment.fixtures frontMatter sourceDir = .ok tests ∧
      rest.mapM (withTests frontMatter sourceDir) = .ok others ∧
      parts = (segment, tests) :: others := by
  rw [List.mapM_cons, withTests] at found
  cases tests : segment.fixtures frontMatter sourceDir with
  | error fault =>
      rw [tests] at found
      cases found
  | ok fixtures =>
      cases others : rest.mapM (withTests frontMatter sourceDir) with
      | error fault =>
          rw [tests, others] at found
          cases found
      | ok parts =>
          rw [tests, others] at found
          cases found
          exact ⟨fixtures, parts, rfl, rfl, rfl⟩

/-! ## Tests of documents -/

namespace Document

theorem segments_eq (blocks : List Block) (frontMatter : FrontMatter) (sourceDir : String) :
    segments blocks frontMatter sourceDir =
      (Segment.all blocks).mapM (Segment.withTests frontMatter sourceDir) := rfl

def fixtures (blocks : List Block) (frontMatter : FrontMatter) (sourceDir : String) :
    Except Fault (List Fixture) :=
  (segments blocks frontMatter sourceDir).map fun parts => parts.flatMap Prod.snd

section

variable {name : String} {blocks : List Block} {frontMatter : FrontMatter} {sourceDir : String}

theorem map_test_testEntries (before : Nat) (parts : List (Segment × List Fixture)) :
    (testEntries before parts).map (fun entry => entry.info.test) =
      (parts.flatMap Prod.snd).map some := by
  induction parts generalizing before with
  | nil => rfl
  | cons part rest induction =>
      rw [testEntries, List.map_append, induction, List.flatMap_cons, List.map_append, List.map_map]
      rfl

theorem fixtures_of_ofBlocks {root : Node}
    (read : ofBlocks name blocks frontMatter sourceDir = .ok root) :
    ∃ tests, fixtures blocks frontMatter sourceDir = .ok tests ∧
      root.payloads = tests.map some := by
  rcases filter_contents_of_ofBlocks read with ⟨parts, found, -, tests, -⟩
  refine ⟨parts.flatMap Prod.snd, by rw [fixtures, found]; rfl, ?_⟩
  rw [Node.payloads_eq, tests, map_test_testEntries]

theorem exists_ofBlocks (name : String) {tests : List Fixture}
    (found : fixtures blocks frontMatter sourceDir = .ok tests) :
    ∃ root, ofBlocks name blocks frontMatter sourceDir = .ok root := by
  rw [fixtures] at found
  rw [ofBlocks_eq]
  cases parts : segments blocks frontMatter sourceDir with
  | error fault =>
      rw [parts] at found
      cases found
  | ok parts => exact ⟨_, rfl⟩

theorem exists_ofBlocks_iff :
    (∃ root, ofBlocks name blocks frontMatter sourceDir = .ok root) ↔
      ∃ tests, fixtures blocks frontMatter sourceDir = .ok tests := by
  constructor
  · rintro ⟨root, read⟩
    rcases fixtures_of_ofBlocks read with ⟨tests, found, -⟩
    exact ⟨tests, found⟩
  · rintro ⟨tests, found⟩
    exact exists_ofBlocks name found

end

/-! ## Joining -/

def fixturesOf (frontMatter : FrontMatter) (sourceDir : String) :
    List Segment → Except Fault (List Fixture)
  | [] => .ok []
  | segment :: rest => do
      let first ← segment.fixtures frontMatter sourceDir
      let others ← fixturesOf frontMatter sourceDir rest
      return first ++ others

theorem fixtures_eq (blocks : List Block) (frontMatter : FrontMatter) (sourceDir : String) :
    fixtures blocks frontMatter sourceDir =
      fixturesOf frontMatter sourceDir (Segment.all blocks) := by
  rw [fixtures, segments_eq]
  induction Segment.all blocks with
  | nil => rfl
  | cons segment rest induction =>
      rw [fixturesOf, ← induction, List.mapM_cons, Segment.withTests]
      cases segment.fixtures frontMatter sourceDir with
      | error fault => rfl
      | ok first =>
          cases rest.mapM (Segment.withTests frontMatter sourceDir) with
          | error fault => rfl
          | ok others => rfl

theorem exists_of_fixturesOf_cons {frontMatter : FrontMatter} {sourceDir : String}
    {segment : Segment} {rest : List Segment} {tests : List Fixture}
    (found : fixturesOf frontMatter sourceDir (segment :: rest) = .ok tests) :
    ∃ first others, segment.fixtures frontMatter sourceDir = .ok first ∧
      fixturesOf frontMatter sourceDir rest = .ok others ∧ tests = first ++ others := by
  rw [fixturesOf] at found
  cases own : segment.fixtures frontMatter sourceDir with
  | error fault =>
      rw [own] at found
      cases found
  | ok first =>
      cases later : fixturesOf frontMatter sourceDir rest with
      | error fault =>
          rw [own, later] at found
          cases found
      | ok others =>
          rw [own, later] at found
          cases found
          exact ⟨first, others, rfl, rfl, rfl⟩

theorem fixturesOf_append (frontMatter : FrontMatter) (sourceDir : String)
    (first second : List Segment) :
    fixturesOf frontMatter sourceDir (first ++ second) = do
      let before ← fixturesOf frontMatter sourceDir first
      let after ← fixturesOf frontMatter sourceDir second
      return before ++ after := by
  induction first with
  | nil =>
      rw [List.nil_append]
      cases fixturesOf frontMatter sourceDir second <;> rfl
  | cons segment rest induction =>
      rw [List.cons_append, fixturesOf, fixturesOf, induction]
      cases segment.fixtures frontMatter sourceDir with
      | error fault => rfl
      | ok tests =>
          cases fixturesOf frontMatter sourceDir rest with
          | error fault => rfl
          | ok others =>
              cases fixturesOf frontMatter sourceDir second with
              | error fault => rfl
              | ok after => exact congrArg Except.ok (List.append_assoc tests others after).symm

section

variable {frontMatter : FrontMatter} {sourceDir : String} {first second : List Block}

theorem fixtures_append (begins : BeginsWithHeading second) :
    fixtures (first ++ second) frontMatter sourceDir = do
      let before ← fixtures first frontMatter sourceDir
      let after ← fixtures second frontMatter sourceDir
      return before ++ after := by
  have others : fixturesOf frontMatter sourceDir (Segment.all second) =
      fixturesOf frontMatter sourceDir (Segment.ofBlocks second).2 := by
    rw [Segment.all, begins.first, fixturesOf]
    change (do
      let others ← fixturesOf frontMatter sourceDir (Segment.ofBlocks second).2
      return [] ++ others) = _
    cases fixturesOf frontMatter sourceDir (Segment.ofBlocks second).2 <;> rfl
  rw [fixtures_eq, fixtures_eq, fixtures_eq, Segment.all_append first begins.first,
    fixturesOf_append, others]

theorem fixtures_append_eq_ok_iff (begins : BeginsWithHeading second) {tests : List Fixture} :
    fixtures (first ++ second) frontMatter sourceDir = .ok tests ↔
      ∃ before after, fixtures first frontMatter sourceDir = .ok before ∧
        fixtures second frontMatter sourceDir = .ok after ∧ tests = before ++ after := by
  rw [fixtures_append begins]
  cases fixtures first frontMatter sourceDir with
  | error fault => simp [bind, Except.bind]
  | ok before =>
      cases fixtures second frontMatter sourceDir with
      | error fault => simp [bind, Except.bind]
      | ok after => simp [bind, Except.bind, pure, Except.pure, eq_comm]

theorem payloads_append (begins : BeginsWithHeading second)
    {name firstName secondName : String} {root before after : Node}
    (read : ofBlocks name (first ++ second) frontMatter sourceDir = .ok root)
    (readFirst : ofBlocks firstName first frontMatter sourceDir = .ok before)
    (readSecond : ofBlocks secondName second frontMatter sourceDir = .ok after) :
    root.payloads = before.payloads ++ after.payloads := by
  rcases fixtures_of_ofBlocks read with ⟨tests, found, payloads⟩
  rcases fixtures_of_ofBlocks readFirst with ⟨firstTests, foundFirst, firstPayloads⟩
  rcases fixtures_of_ofBlocks readSecond with ⟨secondTests, foundSecond, secondPayloads⟩
  rcases (fixtures_append_eq_ok_iff begins).mp found with ⟨_, _, same, others, joined⟩
  cases foundFirst.symm.trans same
  cases foundSecond.symm.trans others
  rw [payloads, firstPayloads, secondPayloads, joined, List.map_append]

theorem exists_append_iff (begins : BeginsWithHeading second)
    (name firstName secondName : String) :
    (∃ root, ofBlocks name (first ++ second) frontMatter sourceDir = .ok root) ↔
      (∃ before, ofBlocks firstName first frontMatter sourceDir = .ok before) ∧
        ∃ after, ofBlocks secondName second frontMatter sourceDir = .ok after := by
  rw [exists_ofBlocks_iff, exists_ofBlocks_iff, exists_ofBlocks_iff]
  constructor
  · rintro ⟨tests, found⟩
    rcases (fixtures_append_eq_ok_iff begins).mp found with
      ⟨before, after, readFirst, readSecond, -⟩
    exact ⟨⟨before, readFirst⟩, after, readSecond⟩
  · rintro ⟨⟨before, readFirst⟩, after, readSecond⟩
    exact ⟨before ++ after,
      (fixtures_append_eq_ok_iff begins).mpr ⟨before, after, readFirst, readSecond, rfl⟩⟩

end

/-- A document that begins with a heading can follow another one: together they can be read just if
each of them can, and their tests are those of the one and then those of the other. So whatever is
changed between two headings, the tests around it stay as they are. -/
theorem ofBlocks_local (frontMatter : FrontMatter) (sourceDir : String)
    (first second : List Block) (begins : BeginsWithHeading second) :
    (∀ name firstName secondName,
      (∃ root, ofBlocks name (first ++ second) frontMatter sourceDir = .ok root) ↔
        (∃ before, ofBlocks firstName first frontMatter sourceDir = .ok before) ∧
          ∃ after, ofBlocks secondName second frontMatter sourceDir = .ok after) ∧
    (∀ name firstName secondName root before after,
      ofBlocks name (first ++ second) frontMatter sourceDir = .ok root →
        ofBlocks firstName first frontMatter sourceDir = .ok before →
          ofBlocks secondName second frontMatter sourceDir = .ok after →
            root.payloads = before.payloads ++ after.payloads) ∧
    ∀ name middle changed root other, BeginsWithHeading middle → BeginsWithHeading changed →
      ofBlocks name (first ++ (middle ++ second)) frontMatter sourceDir = .ok root →
        ofBlocks name (first ++ (changed ++ second)) frontMatter sourceDir = .ok other →
          ∃ before old new after, ofBlocks name first frontMatter sourceDir = .ok before ∧
            ofBlocks name middle frontMatter sourceDir = .ok old ∧
            ofBlocks name changed frontMatter sourceDir = .ok new ∧
            ofBlocks name second frontMatter sourceDir = .ok after ∧
            root.payloads = before.payloads ++ (old.payloads ++ after.payloads) ∧
            other.payloads = before.payloads ++ (new.payloads ++ after.payloads) := by
  refine ⟨exists_append_iff begins, ?_, ?_⟩
  · intro name firstName secondName root before after read readFirst readSecond
    exact payloads_append begins read readFirst readSecond
  -- The document between two headings, with those around it, is cut twice.
  have cut {name : String} {middle : List Block} {root : Node} (starts : BeginsWithHeading middle)
      (read : ofBlocks name (first ++ (middle ++ second)) frontMatter sourceDir = .ok root) :
      ∃ before between after, ofBlocks name first frontMatter sourceDir = .ok before ∧
        ofBlocks name middle frontMatter sourceDir = .ok between ∧
        ofBlocks name second frontMatter sourceDir = .ok after ∧
        root.payloads = before.payloads ++ (between.payloads ++ after.payloads) := by
    have behind := starts.append begins
    rcases (exists_append_iff behind name name name).mp ⟨root, read⟩ with
      ⟨⟨before, readFirst⟩, rest, readRest⟩
    rcases (exists_append_iff begins name name name).mp ⟨rest, readRest⟩ with
      ⟨⟨between, readMiddle⟩, after, readSecond⟩
    refine ⟨before, between, after, readFirst, readMiddle, readSecond, ?_⟩
    rw [payloads_append behind read readFirst readRest,
      payloads_append begins readRest readMiddle readSecond]
  intro name middle changed root other starts startsChanged read readChanged
  rcases cut starts read with ⟨before, old, after, readFirst, readOld, readSecond, tests⟩
  rcases cut startsChanged readChanged with ⟨_, new, _, sameFirst, readNew, sameSecond, others⟩
  cases readFirst.symm.trans sameFirst
  cases readSecond.symm.trans sameSecond
  exact ⟨before, old, new, after, readFirst, readOld, readNew, readSecond, tests, others⟩

theorem ofBlocks_local_of_waiting_code :
    BeginsWithHeading [.heading 2 "command: go", .code "bash" "true", .list ["contains: a"]] ∧
      ∃ root before after,
        ofBlocks "a.md" [.heading 1 "One", .code "sh" "true"] {} "" = .ok before ∧
        ofBlocks "a.md" [.heading 2 "command: go", .code "bash" "true", .list ["contains: a"]] {}
          "" = .ok after ∧
        ofBlocks "a.md"
          ([.heading 1 "One", .code "sh" "true"] ++
            [.heading 2 "command: go", .code "bash" "true", .list ["contains: a"]]) {} "" =
          .ok root ∧
        root.payloads = before.payloads ++ after.payloads := by
  have begins : BeginsWithHeading
      [.heading 2 "command: go", .code "bash" "true", .list ["contains: a"]] :=
    .inr ⟨_, _, _, rfl⟩
  have joins := ofBlocks_local {} "" [.heading 1 "One", .code "sh" "true"] _ begins
  exact ⟨begins, _, _, _, rfl, rfl, rfl, joins.2.1 "a.md" "a.md" "a.md" _ _ _ rfl rfl rfl⟩

end Document

end LiterateTest
