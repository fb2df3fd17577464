import LiterateTest.Proofs.Document.BlockReading
import LiterateTest.Proofs.Text
import Mathlib.Data.List.Forall2

/-! The texts of the items of a list. A list has an entry for each of its items and of those in
nested lists, in the order in which they begin. The entry of an item is its own text as long as no
text of an item stands behind a list in it; such text goes to the item that began last. -/

namespace LiterateTest

open Markdown (Part)

/-! ## Text before and behind the starts of items -/

namespace Mark

def allText : List Mark → String
  | [] => ""
  | itemStart :: rest => allText rest
  | text own :: rest => own ++ allText rest

def late : List Mark → String
  | [] => ""
  | itemStart :: rest => allText rest
  | text _ :: rest => late rest

variable {front : List Mark}

theorem allText_eq (marks : List Mark) : allText marks = leading marks ++ late marks := by
  induction marks with
  | nil => rfl
  | cons mark rest induction =>
      cases mark with
      | itemStart => rw [allText, leading, late, String.empty_append]
      | text own => rw [allText, leading, late, induction, String.append_assoc]

theorem allText_append (front rest : List Mark) :
    allText (front ++ rest) = allText front ++ allText rest := by
  induction front with
  | nil => rw [List.nil_append, allText, String.empty_append]
  | cons mark front induction =>
      cases mark with
      | itemStart => exact induction
      | text own => rw [List.cons_append, allText, allText, induction, String.append_assoc]

theorem leading_append_of_mem (starts : itemStart ∈ front) (rest : List Mark) :
    leading (front ++ rest) = leading front := by
  induction front with
  | nil => cases starts
  | cons mark front induction =>
      cases mark with
      | itemStart => rfl
      | text own =>
          have later : itemStart ∈ front := by simpa using starts
          rw [List.cons_append, leading, leading, induction later]

theorem leading_append_of_not_mem (plain : itemStart ∉ front) (rest : List Mark) :
    leading (front ++ rest) = leading front ++ leading rest := by
  induction front with
  | nil => rw [List.nil_append, leading, String.empty_append]
  | cons mark front induction =>
      cases mark with
      | itemStart => exact absurd List.mem_cons_self plain
      | text own =>
          have later : itemStart ∉ front := fun member => plain (List.mem_cons_of_mem _ member)
          rw [List.cons_append, leading, leading, induction later, String.append_assoc]

theorem late_of_not_mem (plain : itemStart ∉ front) : late front = "" := by
  induction front with
  | nil => rfl
  | cons mark front induction =>
      cases mark with
      | itemStart => exact absurd List.mem_cons_self plain
      | text own => exact induction fun member => plain (List.mem_cons_of_mem _ member)

end Mark

def Consists (kind : Char → Prop) (text : String) : Prop := ∀ c ∈ text.toList, kind c

section

variable {kind : Char → Prop}

theorem consists_empty : Consists kind "" := by
  intro c member
  cases member

theorem consists_append {front rest : String} :
    Consists kind (front ++ rest) ↔ Consists kind front ∧ Consists kind rest := by
  rw [Consists, String.toList_append]
  exact List.forall_mem_append

theorem consists_late_append (front rest : List Mark) :
    Consists kind (Mark.late (front ++ rest)) ↔
      Consists kind (Mark.late front) ∧ Consists kind (Mark.late rest) ∧
        (.itemStart ∈ front → Consists kind (Mark.leading rest)) := by
  induction front with
  | nil => simp [Mark.late, consists_empty]
  | cons mark front induction =>
      cases mark with
      | itemStart =>
          rw [List.cons_append, Mark.late, Mark.late, Mark.allText_append, consists_append,
            Mark.allText_eq rest, consists_append]
          simp [and_comm]
      | text own => simpa [Mark.late] using induction

end

/-! ## The own text of an item -/

namespace Markdown

mutual

def Part.items : Part → List (List Part)
  | .inline _ => []
  | .group _ parts => itemsOf parts
  | .leaf _ => []
  | .list items => itemsIn items

def itemsOf : List Part → List (List Part)
  | [] => []
  | part :: parts => part.items ++ itemsOf parts

def itemsIn : List (List Part) → List (List Part)
  | [] => []
  | item :: items => item :: itemsOf item ++ itemsIn items

end

mutual

/-- The text of a part that stands in no item in it; a start stands for a list with items. -/
def Part.ownMarks : Part → List Mark
  | .inline content => [.text (content.textWith "\n")]
  | .group _ parts => ownMarksOf parts
  | .leaf _ => []
  | .list items => if items.isEmpty then [] else [.itemStart]

def ownMarksOf : List Part → List Mark
  | [] => []
  | part :: parts => part.ownMarks ++ ownMarksOf parts

end

def itemText (item : List Part) : String := Mark.allText (ownMarksOf item)

def lateText (item : List Part) : String := Mark.late (ownMarksOf item)

mutual

theorem Part.marks_of_not_mem : ∀ part : Part, .itemStart ∉ part.ownMarks →
    part.marks = part.ownMarks ∧ part.items = []
  | .inline _, _ => ⟨rfl, rfl⟩
  | .group _ parts, plain => marksOf_of_not_mem parts plain
  | .leaf _, _ => ⟨rfl, rfl⟩
  | .list [], _ => ⟨rfl, rfl⟩
  | .list (_ :: _), plain => absurd List.mem_cons_self plain

theorem marksOf_of_not_mem : ∀ parts : List Part, .itemStart ∉ ownMarksOf parts →
    marksOf parts = ownMarksOf parts ∧ itemsOf parts = []
  | [], _ => ⟨rfl, rfl⟩
  | part :: parts, plain => by
      rw [ownMarksOf, List.mem_append, not_or] at plain
      have first := part.marks_of_not_mem plain.1
      have others := marksOf_of_not_mem parts plain.2
      rw [marksOf, ownMarksOf, itemsOf, first.1, first.2, others.1, others.2]
      exact ⟨rfl, rfl⟩

end

mutual

theorem Part.leading_marks : ∀ part : Part, .itemStart ∈ part.ownMarks → ∀ rest : List Mark,
    Mark.leading (part.marks ++ rest) = Mark.leading part.ownMarks
  | .inline _, starts, _ => by simp [Part.ownMarks] at starts
  | .group _ parts, starts, rest => leading_marksOf parts starts rest
  | .leaf _, starts, _ => by cases starts
  | .list [], starts, _ => by cases starts
  | .list (_ :: _), _, _ => rfl

theorem leading_marksOf : ∀ parts : List Part, .itemStart ∈ ownMarksOf parts →
    ∀ rest : List Mark, Mark.leading (marksOf parts ++ rest) = Mark.leading (ownMarksOf parts)
  | [], starts, _ => by cases starts
  | part :: parts, starts, rest => by
      rw [marksOf, ownMarksOf, List.append_assoc]
      by_cases first : .itemStart ∈ part.ownMarks
      · rw [part.leading_marks first, Mark.leading_append_of_mem first]
      · have others : .itemStart ∈ ownMarksOf parts := by
          rw [ownMarksOf, List.mem_append] at starts
          exact starts.resolve_left first
        rw [(part.marks_of_not_mem first).1, Mark.leading_append_of_not_mem first,
          Mark.leading_append_of_not_mem first, leading_marksOf parts others]

end

end Markdown

/-! ## Entries -/

open Markdown

/-- What stands in a list for an item: its own text up to the first nested item, and, if there is
none, possibly some more. -/
def IsEntry (kind : Char → Prop) (item : List Part) (entry : String) : Prop :=
  ∃ more, entry = Mark.leading (ownMarksOf item) ++ more ∧ Consists kind more ∧
    (.itemStart ∈ ownMarksOf item → more = "")

section

variable {kind : Char → Prop}

theorem isEntry_leading (item : List Part) {rest : List Mark}
    (follows : Consists kind (Mark.leading rest)) :
    IsEntry kind item (Mark.leading (marksOf item ++ rest)) := by
  by_cases starts : .itemStart ∈ ownMarksOf item
  · refine ⟨"", ?_, consists_empty, fun _ => rfl⟩
    rw [leading_marksOf item starts, String.append_empty]
  · refine ⟨Mark.leading rest, ?_, follows, fun inside => absurd inside starts⟩
    rw [(marksOf_of_not_mem item starts).1, Mark.leading_append_of_not_mem starts]

theorem consists_leading_itemMarks (items : List (List Part)) {rest : List Mark}
    (follows : Consists kind (Mark.leading rest)) :
    Consists kind (Mark.leading (itemMarks items ++ rest)) := by
  cases items with
  | nil => exact follows
  | cons item items => exact consists_empty

theorem consists_leading_marksOf {parts : List Part} {rest : List Mark}
    (own : Consists kind (Mark.leading (ownMarksOf parts)))
    (follows : .itemStart ∉ ownMarksOf parts → Consists kind (Mark.leading rest)) :
    Consists kind (Mark.leading (marksOf parts ++ rest)) := by
  by_cases starts : .itemStart ∈ ownMarksOf parts
  · rwa [leading_marksOf parts starts]
  · rw [(marksOf_of_not_mem parts starts).1, Mark.leading_append_of_not_mem starts]
    exact consists_append.mpr ⟨own, follows starts⟩

mutual

/-- The items of a part have one entry each. What an entry has more than its item is late text,
or follows the part. -/
theorem exists_entries : ∀ (part : Part) (rest : List Mark),
    Consists kind (Mark.late part.ownMarks) →
    (∀ item ∈ part.items, Consists kind (lateText item)) →
    (.itemStart ∈ part.ownMarks → Consists kind (Mark.leading rest)) →
    ∃ entries, Mark.begun (part.marks ++ rest) = entries ++ Mark.begun rest ∧
      List.Forall₂ (IsEntry kind) part.items entries
  | .inline _, _, _, _, _ => ⟨[], rfl, .nil⟩
  | .group _ parts, rest, own, inside, follows => exists_entriesOf parts rest own inside follows
  | .leaf _, _, _, _, _ => ⟨[], rfl, .nil⟩
  | .list [], _, _, _, _ => ⟨[], rfl, .nil⟩
  | .list (item :: items), rest, _, inside, follows =>
      exists_entriesIn (item :: items) rest inside fun _ => follows List.mem_cons_self

theorem exists_entriesOf : ∀ (parts : List Part) (rest : List Mark),
    Consists kind (Mark.late (ownMarksOf parts)) →
    (∀ item ∈ itemsOf parts, Consists kind (lateText item)) →
    (.itemStart ∈ ownMarksOf parts → Consists kind (Mark.leading rest)) →
    ∃ entries, Mark.begun (marksOf parts ++ rest) = entries ++ Mark.begun rest ∧
      List.Forall₂ (IsEntry kind) (itemsOf parts) entries
  | [], _, _, _, _ => ⟨[], rfl, .nil⟩
  | part :: parts, rest, own, inside, follows => by
      rw [ownMarksOf, consists_late_append] at own
      rw [itemsOf, List.forall_mem_append] at inside
      have others := exists_entriesOf parts rest own.2.1 inside.2 fun starts =>
        follows (List.mem_append_right _ starts)
      have first := exists_entries part (marksOf parts ++ rest) own.1 inside.1 fun starts =>
        consists_leading_marksOf (own.2.2 starts) fun _ =>
          follows (List.mem_append_left _ starts)
      rcases others with ⟨later, laterRead, laterEntries⟩
      rcases first with ⟨entries, read, areEntries⟩
      refine ⟨entries ++ later, ?_, List.rel_append areEntries laterEntries⟩
      rw [marksOf, List.append_assoc, read, laterRead, List.append_assoc]

theorem exists_entriesIn : ∀ (items : List (List Part)) (rest : List Mark),
    (∀ item ∈ itemsIn items, Consists kind (lateText item)) →
    (items ≠ [] → Consists kind (Mark.leading rest)) →
    ∃ entries, Mark.begun (itemMarks items ++ rest) = entries ++ Mark.begun rest ∧
      List.Forall₂ (IsEntry kind) (itemsIn items) entries
  | [], _, _, _ => ⟨[], rfl, .nil⟩
  | item :: items, rest, inside, follows => by
      rw [itemsIn, List.cons_append, List.forall_mem_cons, List.forall_mem_append] at inside
      have ending := follows (List.cons_ne_nil _ _)
      have next := consists_leading_itemMarks items ending
      rcases exists_entriesOf item (itemMarks items ++ rest) inside.1 inside.2.1
          (fun _ => next) with ⟨nested, nestedRead, nestedEntries⟩
      rcases exists_entriesIn items rest inside.2.2 (fun _ => ending) with
        ⟨later, laterRead, laterEntries⟩
      refine ⟨Mark.leading (marksOf item ++ (itemMarks items ++ rest)) :: (nested ++ later), ?_,
        .cons (isEntry_leading item next) (List.rel_append nestedEntries laterEntries)⟩
      rw [itemMarks, List.cons_append, List.cons_append, Mark.begun, List.append_assoc,
        nestedRead, laterRead, List.cons_append, List.append_assoc]

end

theorem forall₂_isEntry (kind : Char → Prop) (items : List (List Part))
    (late : ∀ item ∈ itemsIn items, Consists kind (lateText item)) :
    List.Forall₂ (IsEntry kind) (itemsIn items) (Mark.begun (itemMarks items)) := by
  rcases exists_entriesIn items [] late (fun _ => consists_empty) with ⟨entries, read, areEntries⟩
  rw [List.append_nil] at read
  rw [read, Mark.begun, List.append_nil]
  exact areEntries

theorem IsEntry.lateText_blank {item : List Part} {entry : String}
    (isEntry : IsEntry kind item entry) (same : Text.trim entry = Text.trim (itemText item)) :
    Text.isBlankText (lateText item) = true := by
  rcases isEntry with ⟨more, rfl, _, whole⟩
  by_cases starts : .itemStart ∈ ownMarksOf item
  · rw [whole starts, String.append_empty, itemText, Mark.allText_eq] at same
    exact Text.trim_append_eq_iff.mp same.symm
  · rw [lateText, Mark.late_of_not_mem starts]
    rfl

end

theorem IsEntry.trim_eq {item : List Part} {entry : String}
    (isEntry : IsEntry (fun c => Text.isBlank c = true) item entry)
    (blank : Text.isBlankText (lateText item) = true) :
    Text.trim entry = Text.trim (itemText item) := by
  rcases isEntry with ⟨more, rfl, moreBlank, _⟩
  rw [itemText, Mark.allText_eq, Text.trim_append_eq_iff.mpr (List.all_eq_true.mpr moreBlank)]
  exact (Text.trim_append_eq_iff.mpr blank).symm

theorem map_trim_begun_iff (items : List (List Part)) :
    (Mark.begun (itemMarks items)).map Text.trim =
        (itemsIn items).map (fun item => Text.trim (itemText item)) ↔
      ∀ item ∈ itemsIn items, Text.isBlankText (lateText item) = true := by
  constructor
  · have entries := forall₂_isEntry (fun _ => True) items
      fun _ _ _ _ => trivial
    intro same
    generalize Mark.begun (itemMarks items) = texts at entries same
    generalize itemsIn items = all at entries same ⊢
    induction entries with
    | nil => simp
    | cons isEntry _ induction =>
        have parts := List.cons.inj same
        rw [List.forall_mem_cons]
        exact ⟨isEntry.lateText_blank parts.1, induction parts.2⟩
  · intro blank
    have entries := forall₂_isEntry (fun c => Text.isBlank c = true) items
      fun item member => List.all_eq_true.mp (blank item member)
    generalize Mark.begun (itemMarks items) = texts at entries ⊢
    generalize itemsIn items = all at entries blank ⊢
    induction entries with
    | nil => rfl
    | cons isEntry _ induction =>
        rw [List.forall_mem_cons] at blank
        rw [List.map_cons, List.map_cons, isEntry.trim_eq blank.1, induction blank.2]

theorem length_begun (items : List (List Part)) :
    (Mark.begun (itemMarks items)).length = (itemsIn items).length :=
  (forall₂_isEntry (fun _ => True) items fun _ _ _ _ => trivial).length_eq.symm

/-! ## Lists -/

/-- A list gives one block, behind those of what stands in its items, with one entry per item. An
entry holds the text from the start of its item to the next start; these are the texts of the items
themselves just if no visible text of an item stands behind a nested one. -/
theorem Block.ofEvents_list (items : List (List Part)) :
    let block := Block.list ((Mark.begun (itemMarks items)).map Text.trim)
    (∀ blocks, (Part.list items).events.foldl BlockReader.step { blocks } =
        { blocks := block :: ((itemBlocks items).reverse ++ blocks) }) ∧
      (∀ before after, Block.ofEvents (eventsOf (before ++ .list items :: after)) =
        Block.ofEvents (eventsOf before) ++ itemBlocks items ++ [block] ++
          Block.ofEvents (eventsOf after)) ∧
      (∀ inner ∈ itemBlocks items, ∀ entries, inner ≠ .list entries) ∧
      (Mark.begun (itemMarks items)).length = (itemsIn items).length ∧
      ((Mark.begun (itemMarks items)).map Text.trim =
          (itemsIn items).map (fun item => Text.trim (itemText item)) ↔
        ∀ item ∈ itemsIn items, Text.isBlankText (lateText item) = true) := by
  refine ⟨fun blocks => BlockReader.read_list items blocks, fun before after => ?_,
    ne_list_of_mem_itemBlocks items, length_begun items, map_trim_begun_iff items⟩
  rw [Block.ofEvents_eventsOf, Block.ofEvents_eventsOf, Block.ofEvents_eventsOf, blocksOf_append,
    blocksOf, Part.blocks, if_neg Bool.false_ne_true]
  simp

theorem Block.ofEvents_list_of_nested :
    let items : List (List Part) :=
      [[.inline (.text ['a']), .list [[.inline (.code ['b'])]], .inline .lineBreak],
        [.inline (.text ['c'])]]
    (∀ item ∈ itemsIn items, Text.isBlankText (lateText item) = true) ∧
      Block.ofEvents (eventsOf [.list items]) = [.list ["a", "b", "c"]] := by
  intro items
  have blank : ∀ item ∈ itemsIn items, Text.isBlankText (lateText item) = true := by decide
  have promised := Block.ofEvents_list items
  refine ⟨blank, (promised.2.1 [] []).trans ?_⟩
  rw [promised.2.2.2.2.mpr blank]
  decide

/-- Text behind a nested list goes to the last item of that list. -/
theorem Block.ofEvents_list_exceptions :
    let markdown := "- a\n  - b\n\n  c\n"
    let paragraph := fun c => Part.group .paragraph [.inline (.text [c])]
    let items := [[paragraph 'a', .list [[paragraph 'b']], paragraph 'c']]
    Markdown.events markdown = eventsOf [.list items] ∧
      Block.ofMarkdown markdown = [.list ["a", "bc"]] ∧
      (itemsIn items).map (fun item => Text.trim (itemText item)) = ["ac", "b"] := by
  decide +kernel

end LiterateTest
