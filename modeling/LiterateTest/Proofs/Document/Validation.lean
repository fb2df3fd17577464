import LiterateTest.Document.Validation
import LiterateTest.Proofs.Expression.Conjunction

/-! What the expression of a validation list asks for: all of its items, as far as they can be
read one after the other. -/

namespace LiterateTest.Validation

open Expression

variable {bindings : Record Json}

/-! ## Fragments -/

theorem compileChars_of_check {item check : List Char}
    (found : checkOf? (Text.trimChars item) = some check) : compileChars item = check := by
  rw [compileChars, found]

theorem compileChars_of_unkeyed {item : List Char}
    (noCheck : checkOf? (Text.trimChars item) = none)
    (noNegation : valueAfter? "not" (Text.trimChars item) = none) :
    compileChars item = Text.trimChars item := by
  rw [compileChars, noCheck]
  dsimp only
  split
  · next inner found =>
      rw [noNegation] at found
      cases found
  · rfl

theorem compileChars_of_negation {item inner : List Char}
    (noCheck : checkOf? (Text.trimChars item) = none)
    (negation : valueAfter? "not" (Text.trimChars item) = some inner) :
    compileChars item =
      match valueAfter? "contains" inner with
      | some text => '!' :: outputCheck "contains" text
      | none => "!(".toList ++ compileChars inner ++ [')'] := by
  rw [compileChars, noCheck]
  dsimp only
  split
  · next other found =>
      rw [negation] at found
      cases found
      rfl
  · next none =>
      rw [negation] at none
      cases none

theorem compileChars_of_not_contains {item inner text : List Char}
    (noCheck : checkOf? (Text.trimChars item) = none)
    (negation : valueAfter? "not" (Text.trimChars item) = some inner)
    (contains : valueAfter? "contains" inner = some text) :
    compileChars item = '!' :: outputCheck "contains" text := by
  rw [compileChars_of_negation noCheck negation, contains]

theorem evaluateSource_empty (value : Json) :
    evaluateSource bindings (String.ofList []) ≠ .ok value := by
  intro ok
  cases ok

theorem fragments_eq {items : List String}
    (haveValues : ∀ item ∈ keptItems items, ∃ value,
      evaluateSource bindings (String.ofList (compileChars item)) = .ok value) :
    fragments items = (keptItems items).map compileChars := by
  apply List.filter_eq_self.mpr
  intro fragment member
  rcases List.mem_map.mp member with ⟨item, kept, rfl⟩
  rcases haveValues item kept with ⟨value, ok⟩
  cases empty : compileChars item with
  | nil =>
      rw [empty] at ok
      exact absurd ok (evaluateSource_empty value)
  | cons c rest => rfl

/-! ## Joining -/

theorem joinFragments_cons (first second : List Char) (rest : List (List Char)) :
    joinFragments (first :: second :: rest) =
      first ++ ' ' :: '&' :: '&' :: ' ' :: joinFragments (second :: rest) := by
  simp [joinFragments]

theorem joinFragments_append (before first : List Char) (rest : List (List Char)) :
    joinFragments ((before ++ first) :: rest) = before ++ joinFragments (first :: rest) := by
  cases rest with
  | nil => simp [joinFragments]
  | cons second rest =>
      rw [joinFragments_cons, joinFragments_cons, List.append_assoc]

/-- The parts of a conjunction make one whose operators are theirs and those between them, and
whose nesting is that of the part which comes last, counted from its place. -/
theorem conjunct_join {ι : Type} {text : ι → List Char} {value : ι → Bool} (first : ι)
    (others : List ι)
    (parts : ∀ part ∈ first :: others,
      ∃ length nesting, Conjunct bindings (text part) length nesting (value part)) :
    ∃ length nesting,
      Conjunct bindings (joinFragments ((first :: others).map text)) length nesting
        ((first :: others).all value) ∧
      ∀ operands, fitsAfter operands ((first :: others).map text) = true ↔
        nesting + operands < maxDepth := by
  induction others generalizing first with
  | nil =>
      rcases parts first List.mem_cons_self with ⟨length, nesting, conjunct⟩
      refine ⟨length, nesting, ?_, ?_⟩
      · simpa [joinFragments] using conjunct
      · intro operands
        rw [List.map_cons, List.map_nil, fitsAfter, fitsAfter, Bool.and_true,
          conjunct.parsesWithin_iff]
        omega
  | cons second others induction =>
      rcases parts first List.mem_cons_self with ⟨length, nesting, conjunct⟩
      rcases induction second fun part member => parts part (List.mem_cons_of_mem _ member) with
        ⟨more, within, rest, restFits⟩
      refine ⟨length + more + 1, max nesting (within + length + 1), ?_, ?_⟩
      · rw [List.map_cons, List.map_cons, joinFragments_cons, List.all_cons]
        exact conjunct.and rest
      · intro operands
        rw [List.map_cons, fitsAfter, Bool.and_eq_true, conjunct.parsesWithin_iff,
          conjunct.operandCount_eq, restFits]
        omega

theorem evaluateSource_joined {ι : Type} {text : ι → List Char} {value : ι → Bool} {all : List ι}
    (nonempty : all ≠ [])
    (parts : ∀ part ∈ all,
      ∃ length nesting, Conjunct bindings (text part) length nesting (value part)) :
    (fitsAfter 0 (all.map text) = true →
      evaluateSource bindings (String.ofList (joinFragments (all.map text))) =
        .ok (.bool (all.all value))) ∧
    (fitsAfter 0 (all.map text) = false → ∃ offset,
      evaluateSource bindings (String.ofList (joinFragments (all.map text))) =
        .error (.parse offset .tooDeep)) := by
  rcases List.exists_cons_of_ne_nil nonempty with ⟨first, others, rfl⟩
  rcases conjunct_join first others parts with ⟨length, nesting, conjunct, fitting⟩
  have result := conjunct.evaluateSource
  constructor
  · intro fit
    exact result.1 ((fitting 0).mp fit)
  · intro noFit
    apply result.2
    intro deep
    rw [(fitting 0).mpr deep] at noFit
    cases noFit

/-! ## Lists -/

/-- A conditional that gets no parentheses, so that it takes in what is joined with it. -/
def fallsApart (fragment : List Char) : Bool :=
  !Text.containsChars ['|', '|'] fragment && isBareConditional fragment

def staysWhole (items : List String) : Bool :=
  match fragments items with
  | [_] => true
  | parts => parts.all fun fragment => !fallsApart fragment

/-- Whether the fragments can be read one behind the other; a single one is read by itself. -/
def fits (items : List String) : Bool :=
  match fragments items with
  | [_] => true
  | parts => fitsAfter 0 (parts.map protect)

theorem conjunct_protect {fragment : List Char} {value : Bool}
    (ok : evaluateSource bindings (String.ofList fragment) = .ok (.bool value))
    (whole : fallsApart fragment = false) :
    ∃ length nesting, Conjunct bindings (protect fragment) length nesting value := by
  cases disjunction : Text.containsChars ['|', '|'] fragment with
  | true =>
      rw [protect, if_pos disjunction]
      rcases conjunct_grouped ok with ⟨nesting, conjunct⟩
      exact ⟨0, nesting, conjunct⟩
  | false =>
      rw [protect, disjunction]
      rw [fallsApart, disjunction] at whole
      exact conjunct_of_tight ok (isLoose_of_plain disjunction whole)

def holds (bindings : Record Json) (fragment : List Char) : Bool :=
  match evaluateSource bindings (String.ofList fragment) with
  | .ok (.bool value) => value
  | _ => false

section Truth

variable {fragments : List (List Char)}
  (truth : ∀ fragment ∈ fragments, ∃ value,
    evaluateSource bindings (String.ofList fragment) = .ok (.bool value))
include truth

theorem evaluateSource_eq_holds {fragment : List Char} (member : fragment ∈ fragments) :
    evaluateSource bindings (String.ofList fragment) = .ok (.bool (holds bindings fragment)) := by
  rcases truth fragment member with ⟨value, ok⟩
  rw [holds, ok]

theorem all_holds_iff :
    fragments.all (holds bindings) = true ↔
      ∀ fragment ∈ fragments,
        evaluateSource bindings (String.ofList fragment) = .ok (.bool true) := by
  rw [List.all_eq_true]
  refine forall₂_congr fun fragment member => ?_
  rw [evaluateSource_eq_holds truth member]
  simp

theorem evaluateSource_join (nonempty : fragments ≠ [])
    (whole : ∀ fragment ∈ fragments, fallsApart fragment = false) :
    (fitsAfter 0 (fragments.map protect) = true →
      evaluateSource bindings (String.ofList (joinFragments (fragments.map protect))) =
        .ok (.bool (fragments.all (holds bindings)))) ∧
    (fitsAfter 0 (fragments.map protect) = false → ∃ offset,
      evaluateSource bindings (String.ofList (joinFragments (fragments.map protect))) =
        .error (.parse offset .tooDeep)) :=
  evaluateSource_joined nonempty fun part member =>
    conjunct_protect (evaluateSource_eq_holds truth member) (whole part member)

end Truth

theorem compile_of_single {items : List String} {only : List Char}
    (single : fragments items = [only]) : compile items = String.ofList only := by
  rw [compile, single]

theorem compile_of_several {items : List String} {first second : List Char}
    {others : List (List Char)} (several : fragments items = first :: second :: others) :
    compile items = String.ofList (joinFragments ((fragments items).map protect)) ∧
      fits items = fitsAfter 0 ((fragments items).map protect) ∧
      staysWhole items = (fragments items).all fun fragment => !fallsApart fragment := by
  rw [compile, fits, staysWhole, several]
  exact ⟨rfl, rfl, rfl⟩

/-- If each item has a value of truth, so has the whole list, and it is true just if all items
are; unless a conditional falls apart, or the list is longer than can be read. -/
theorem evaluate_compile (bindings : Record Json) (items : List String)
    (kept : keptItems items ≠ [])
    (truth : ∀ item ∈ keptItems items, ∃ value,
      evaluateSource bindings (String.ofList (compileChars item)) = .ok (.bool value))
    (whole : staysWhole items = true) :
    (fits items = true → ∃ value, evaluateSource bindings (compile items) = .ok (.bool value) ∧
      (value = true ↔ ∀ item ∈ keptItems items,
        evaluateSource bindings (String.ofList (compileChars item)) = .ok (.bool true))) ∧
    (fits items = false → ∃ offset,
      evaluateSource bindings (compile items) = .error (.parse offset .tooDeep)) := by
  have same : fragments items = (keptItems items).map compileChars := by
    apply fragments_eq
    intro item isKept
    rcases truth item isKept with ⟨value, ok⟩
    exact ⟨.bool value, ok⟩
  have fragmentTruth : ∀ fragment ∈ fragments items, ∃ value,
      evaluateSource bindings (String.ofList fragment) = .ok (.bool value) := by
    intro fragment member
    rw [same] at member
    rcases List.mem_map.mp member with ⟨item, isKept, rfl⟩
    exact truth item isKept
  have nonempty : fragments items ≠ [] := by
    rw [same]
    simpa using kept
  have allTrue : (fragments items).all (holds bindings) = true ↔ ∀ item ∈ keptItems items,
      evaluateSource bindings (String.ofList (compileChars item)) = .ok (.bool true) := by
    rw [all_holds_iff fragmentTruth, same, List.forall_mem_map]
  cases shape : fragments items with
  | nil => exact absurd shape nonempty
  | cons first others =>
      cases others with
      | nil =>
          have alone : fits items = true := by rw [fits, shape]
          have value := evaluateSource_eq_holds fragmentTruth (shape ▸ List.mem_cons_self)
          rw [shape, List.all_cons, List.all_nil, Bool.and_true] at allTrue
          rw [compile_of_single shape, alone]
          exact ⟨fun _ => ⟨_, value, allTrue⟩, fun noFit => by cases noFit⟩
      | cons second others =>
          have parts := compile_of_several shape
          rw [parts.1, parts.2.1]
          rw [parts.2.2, List.all_eq_true] at whole
          have joined := evaluateSource_join fragmentTruth nonempty (by simpa using whole)
          exact ⟨fun fit => ⟨_, joined.1 fit, allTrue⟩, joined.2⟩

theorem evaluate_compile_of_disjunction :
    let bindings : Record Json := [("stdout", .string "ok")]
    let items := ["cel: false || true", "Checks:", "contains: ok"]
    keptItems items ≠ [] ∧
      (∀ item ∈ keptItems items, ∃ value,
        evaluateSource bindings (String.ofList (compileChars item)) = .ok (.bool value)) ∧
      staysWhole items = true ∧ fits items = true ∧
      ∃ value, evaluateSource bindings (compile items) = .ok (.bool value) ∧
        (value = true ↔ ∀ item ∈ keptItems items,
          evaluateSource bindings (String.ofList (compileChars item)) = .ok (.bool true)) := by
  intro bindings items
  have kept : keptItems items = ["cel: false || true".toList, "contains: ok".toList] := by decide
  have first : compileChars "cel: false || true".toList = "false || true".toList :=
    compileChars_of_check (by decide)
  have second : compileChars "contains: ok".toList = "stdout.contains(\"ok\")".toList :=
    compileChars_of_check (by decide)
  have parts : fragments items = ["false || true".toList, "stdout.contains(\"ok\")".toList] := by
    rw [fragments, kept, List.map_cons, List.map_cons, first, second]
    decide
  have truth : ∀ item ∈ keptItems items, ∃ value,
      evaluateSource bindings (String.ofList (compileChars item)) = .ok (.bool value) := by
    intro item member
    rw [kept, List.mem_cons, List.mem_singleton] at member
    rcases member with rfl | rfl
    · exact ⟨true, by rw [first]; rfl⟩
    · exact ⟨true, by rw [second]; rfl⟩
  have whole : staysWhole items = true := by
    rw [staysWhole, parts]
    decide
  have fit : fits items = true := by
    rw [fits, parts]
    decide
  have nonempty : keptItems items ≠ [] := by
    rw [kept]
    exact List.cons_ne_nil _ _
  exact ⟨nonempty, truth, whole, fit, (evaluate_compile bindings items nonempty truth whole).1 fit⟩

/-- The conditional of the first list takes in the item after it, which is false. The second list
has more items than can be read, although all of them are true. -/
theorem evaluate_compile_exceptions :
    (let items := ["cel: true ? true : false", "cel: false"]
     keptItems items ≠ [] ∧
      (∀ item ∈ keptItems items, ∃ value,
        evaluateSource [] (String.ofList (compileChars item)) = .ok (.bool value)) ∧
      evaluateSource [] (compile items) = .ok (.bool true) ∧
      ∃ item ∈ keptItems items,
        evaluateSource [] (String.ofList (compileChars item)) = .ok (.bool false)) ∧
    (let items := List.replicate 257 "cel: true"
     keptItems items ≠ [] ∧
      (∀ item ∈ keptItems items,
        evaluateSource [] (String.ofList (compileChars item)) = .ok (.bool true)) ∧
      ∃ offset, evaluateSource [] (compile items) = .error (.parse offset .tooDeep)) := by
  constructor
  · intro items
    have kept : keptItems items = ["cel: true ? true : false".toList, "cel: false".toList] := by
      decide
    have first : compileChars "cel: true ? true : false".toList = "true ? true : false".toList :=
      compileChars_of_check (by decide)
    have second : compileChars "cel: false".toList = "false".toList :=
      compileChars_of_check (by decide)
    have joined : compile items = "true ? true : false && false" := by
      rw [compile, fragments, kept, List.map_cons, List.map_cons, first, second]
      decide
    have isKept : "cel: false".toList ∈ keptItems items := by
      rw [kept]
      exact List.mem_cons_of_mem _ List.mem_cons_self
    refine ⟨List.ne_nil_of_mem isKept, ?_, by rw [joined]; rfl, "cel: false".toList, isKept,
      by rw [second]; rfl⟩
    intro item member
    rw [kept, List.mem_cons, List.mem_singleton] at member
    rcases member with rfl | rfl
    · exact ⟨true, by rw [first]; rfl⟩
    · exact ⟨false, by rw [second]; rfl⟩
  · intro items
    have trimmed : Text.trimChars "cel: true".toList = "cel: true".toList := by decide
    have kept : keptItems items = List.replicate 257 "cel: true".toList := by
      rw [keptItems, List.map_replicate, trimmed, List.filter_replicate, if_pos (by decide)]
    have fragment : compileChars "cel: true".toList = "true".toList :=
      compileChars_of_check (by decide)
    have parts : fragments items = List.replicate 257 "true".toList := by
      rw [fragments, kept, List.map_replicate, fragment, List.filter_replicate,
        if_pos (by decide)]
    have isTrue : ∀ part ∈ fragments items, ∃ value,
        evaluateSource [] (String.ofList part) = .ok (.bool value) := by
      intro part member
      rw [parts] at member
      rw [List.eq_of_mem_replicate member]
      exact ⟨true, rfl⟩
    have shape : fragments items =
        "true".toList :: "true".toList :: List.replicate 255 "true".toList := parts
    have unprotected : (fragments items).map protect = List.replicate 257 "true".toList := by
      rw [parts, List.map_replicate]
      rfl
    have deep : fitsAfter 0 ((fragments items).map protect) = false := by
      rw [unprotected]
      decide +kernel
    have whole : ∀ part ∈ fragments items, fallsApart part = false := by
      intro part member
      rw [parts] at member
      rw [List.eq_of_mem_replicate member]
      decide
    refine ⟨?_, ?_, ?_⟩
    · rw [kept]
      exact List.cons_ne_nil _ _
    · intro item member
      rw [kept] at member
      rw [List.eq_of_mem_replicate member, fragment]
      rfl
    · rw [(compile_of_several shape).1]
      exact (evaluateSource_join isTrue (shape ▸ List.cons_ne_nil _ _) whole).2 deep

end LiterateTest.Validation
