import LiterateTest.Expression.Evaluation
import LiterateTest.Proofs.Expression.Soundness

/-! Loops through the elements of lists and the keys of maps. The search for an element is the
denial of the test that the body is false for all of them, also where it fails, and the elements
that a filter keeps say what the other loops give. -/

namespace LiterateTest.Expression

/-! ## Elements -/

def elements? : Json → Option (List Json)
  | .list items => some items
  | .map entries => some ((Record.keys entries).map Json.string)
  | _ => none

theorem elements_eq (quantifier : Quantifier) (value : Json) :
    elements quantifier value = match elements? value with
      | some items => .ok items
      | none => .error (.type (.elements quantifier value.type)) := by
  cases value <;> rfl

section

variable {scope : Scope} {target : Expr}

def GoesThrough (scope : Scope) (target : Expr) (items : List Json) : Prop :=
  ∃ value, evaluateIn scope target = .ok value ∧ elements? value = some items

theorem GoesThrough.loop_eq {items : List Json} (through : GoesThrough scope target items)
    (quantifier : Quantifier) (loopVariable : String) (body : Expr) :
    evaluateIn scope (.quantified target quantifier loopVariable body) =
      quantify quantifier (fun item => evaluateIn (scope.bind loopVariable item) body) items := by
  rcases through with ⟨value, evaluates, found⟩
  have hasElements : elements quantifier value = .ok items := by rw [elements_eq, found]
  rw [evaluateIn, evaluates]
  change (elements quantifier value >>= quantify quantifier _) = _
  rw [hasElements]
  rfl

theorem evaluateIn_quantified_of_error {fault : Fault}
    (failed : evaluateIn scope target = .error fault) (quantifier : Quantifier)
    (loopVariable : String) (body : Expr) :
    evaluateIn scope (.quantified target quantifier loopVariable body) = .error fault := by
  rw [evaluateIn, failed]
  rfl

theorem evaluateIn_quantified_of_none {value : Json}
    (evaluates : evaluateIn scope target = .ok value) (none : elements? value = none)
    (quantifier : Quantifier) (loopVariable : String) (body : Expr) :
    evaluateIn scope (.quantified target quantifier loopVariable body) =
      .error (.type (.elements quantifier value.type)) := by
  have noElements : elements quantifier value =
      .error (.type (.elements quantifier value.type)) := by rw [elements_eq, none]
  rw [evaluateIn, evaluates]
  change (elements quantifier value >>= quantify quantifier _) = _
  rw [noElements]
  rfl

theorem goesThrough_of_ok {quantifier : Quantifier} {loopVariable : String} {body : Expr}
    {result : Json}
    (ok : evaluateIn scope (.quantified target quantifier loopVariable body) = .ok result) :
    ∃ items, GoesThrough scope target items := by
  cases evaluates : evaluateIn scope target with
  | error fault =>
      rw [evaluateIn_quantified_of_error evaluates] at ok
      cases ok
  | ok value =>
      cases found : elements? value with
      | none =>
          rw [evaluateIn_quantified_of_none evaluates found] at ok
          cases ok
      | some items => exact ⟨items, value, evaluates, found⟩

end

/-! ## Answers -/

section

variable {value : Json} {outcome : Except Fault Json}

theorem asPredicate_of_ne (noAnswer : ∀ holds, value ≠ .bool holds) (quantifier : Quantifier) :
    asPredicate quantifier value = .error (.type (.predicate quantifier value.type)) := by
  cases value with
  | bool holds => exact absurd rfl (noAnswer holds)
  | _ => rfl

theorem not_of_ne (noAnswer : ∀ holds, value ≠ .bool holds) :
    unaryOperation .not value = .error (.type (.operand .not value.type)) := by
  cases value with
  | bool holds => exact absurd rfl (noAnswer holds)
  | _ => rfl

theorem cases_of_ne_false (notFalse : outcome ≠ .ok (.bool false)) :
    outcome = .ok (.bool true) ∨ (∃ fault, outcome = .error fault) ∨
      ∃ value, outcome = .ok value ∧ ∀ holds, value ≠ .bool holds := by
  match outcome with
  | .error fault => exact .inr (.inl ⟨fault, rfl⟩)
  | .ok (.bool true) => exact .inl rfl
  | .ok (.bool false) => exact absurd rfl notFalse
  | .ok .null | .ok (.number _) | .ok (.string _) | .ok (.list _) | .ok (.map _) =>
      exact .inr (.inr ⟨_, rfl, fun _ => Json.noConfusion⟩)

end

def isTrue : Except Fault Json → Bool
  | .ok (.bool holds) => holds
  | _ => false

section

variable {body : Json → Except Fault Json} {items : List Json}

theorem anyElement_of_answers (answers : ∀ item ∈ items, ∃ holds, body item = .ok (.bool holds)) :
    anyElement body items = .ok (items.any fun item => isTrue (body item)) := by
  induction items with
  | nil => rfl
  | cons item rest induction =>
      rw [List.forall_mem_cons] at answers
      rcases answers with ⟨⟨holds, isValue⟩, others⟩
      rw [anyElement, List.any_cons, isValue, isTrue]
      cases holds with
      | true => rfl
      | false => exact induction others

theorem allElements_of_answers (answers : ∀ item ∈ items, ∃ holds, body item = .ok (.bool holds)) :
    allElements body items = .ok (items.all fun item => isTrue (body item)) := by
  induction items with
  | nil => rfl
  | cons item rest induction =>
      rw [List.forall_mem_cons] at answers
      rcases answers with ⟨⟨holds, isValue⟩, others⟩
      rw [allElements, List.all_cons, isValue, isTrue]
      cases holds with
      | true => exact induction others
      | false => rfl

end

/-! ## Searches -/

section

variable {body : Json → Except Fault Json} {items : List Json} {outcome : Except Fault Json}

/-- What a body gives for the first element for which it is not false. -/
inductive Decides (body : Json → Except Fault Json) : List Json → Except Fault Json → Prop
  | here {item : Json} (rest : List Json) (decisive : body item ≠ .ok (.bool false)) :
      Decides body (item :: rest) (body item)
  | later {item : Json} {rest : List Json} {outcome : Except Fault Json}
      (undecided : body item = .ok (.bool false)) (decides : Decides body rest outcome) :
      Decides body (item :: rest) outcome

theorem exists_decides (body : Json → Except Fault Json) (items : List Json) :
    (∀ item ∈ items, body item = .ok (.bool false)) ∨ ∃ outcome, Decides body items outcome := by
  induction items with
  | nil => exact .inl fun _ member => nomatch member
  | cons item rest induction =>
      by_cases undecided : body item = .ok (.bool false)
      · rcases induction with allFalse | ⟨outcome, decides⟩
        · exact .inl (List.forall_mem_cons.mpr ⟨undecided, allFalse⟩)
        · exact .inr ⟨outcome, .later undecided decides⟩
      · exact .inr ⟨body item, .here rest undecided⟩

theorem Decides.ne_false (decides : Decides body items outcome) : outcome ≠ .ok (.bool false) := by
  induction decides with
  | here rest decisive => exact decisive
  | later undecided decides induction => exact induction

theorem anyElement_of_false (allFalse : ∀ item ∈ items, body item = .ok (.bool false)) :
    anyElement body items = .ok false := by
  rw [anyElement_of_answers fun item member => ⟨false, allFalse item member⟩,
    List.any_eq_false.mpr]
  intro item member
  rw [allFalse item member]
  exact Bool.false_ne_true

theorem anyElement_of_decides (decides : Decides body items outcome) :
    anyElement body items = outcome >>= asPredicate .any := by
  induction decides with
  | @here item rest decisive =>
      rw [anyElement]
      rcases cases_of_ne_false decisive with truth | ⟨fault, failed⟩ | ⟨value, isValue, noAnswer⟩
      · rw [truth]
        rfl
      · rw [failed]
        rfl
      · rw [isValue]
        change (asPredicate .any value >>= _) = asPredicate .any value
        rw [asPredicate_of_ne noAnswer]
        rfl
  | later undecided decides induction =>
      rw [anyElement, undecided]
      exact induction

def denied (body : Json → Except Fault Json) (item : Json) : Except Fault Json :=
  body item >>= unaryOperation .not

theorem allElements_of_false (allFalse : ∀ item ∈ items, body item = .ok (.bool false)) :
    allElements (denied body) items = .ok true := by
  have allTrue : ∀ item ∈ items, denied body item = .ok (.bool true) := by
    intro item member
    rw [denied, allFalse item member]
    rfl
  rw [allElements_of_answers fun item member => ⟨true, allTrue item member⟩,
    List.all_eq_true.mpr]
  intro item member
  rw [allTrue item member]
  rfl

theorem allElements_of_decides (decides : Decides body items outcome) :
    allElements (denied body) items =
      (outcome >>= unaryOperation .not) >>= asPredicate .all := by
  induction decides with
  | @here item rest decisive =>
      rw [allElements, denied]
      rcases cases_of_ne_false decisive with truth | ⟨fault, failed⟩ | ⟨value, isValue, noAnswer⟩
      · rw [truth]
        rfl
      · rw [failed]
        rfl
      · rw [isValue]
        change (unaryOperation .not value >>= _) = (unaryOperation .not value >>= _)
        rw [not_of_ne noAnswer]
        rfl
  | later undecided decides induction =>
      rw [allElements, denied, undecided]
      exact induction

end

section

variable {scope : Scope} {target body : Expr} {loopVariable : String}
  {outcome other : Except Fault Json}

/-- How the search for an element that satisfies a body ends, and how the denial ends that the body
is false for all elements. -/
inductive Search (scope : Scope) (target body : Expr) (loopVariable : String) :
    Except Fault Json → Except Fault Json → Prop
  | noTarget {fault : Fault} (failed : evaluateIn scope target = .error fault) :
      Search scope target body loopVariable (.error fault) (.error fault)
  | noElements {value : Json} (evaluates : evaluateIn scope target = .ok value)
      (none : elements? value = none) :
      Search scope target body loopVariable (.error (.type (.elements .any value.type)))
        (.error (.type (.elements .all value.type)))
  | noneFound {items : List Json} (through : GoesThrough scope target items)
      (allFalse : ∀ item ∈ items,
        evaluateIn (scope.bind loopVariable item) body = .ok (.bool false)) :
      Search scope target body loopVariable (.ok (.bool false)) (.ok (.bool false))
  | found {items : List Json} (through : GoesThrough scope target items)
      (decides : Decides (fun item => evaluateIn (scope.bind loopVariable item) body) items
        (.ok (.bool true))) :
      Search scope target body loopVariable (.ok (.bool true)) (.ok (.bool true))
  | noValue {items : List Json} {fault : Fault} (through : GoesThrough scope target items)
      (decides : Decides (fun item => evaluateIn (scope.bind loopVariable item) body) items
        (.error fault)) :
      Search scope target body loopVariable (.error fault) (.error fault)
  | noAnswer {items : List Json} {value : Json} (through : GoesThrough scope target items)
      (decides : Decides (fun item => evaluateIn (scope.bind loopVariable item) body) items
        (.ok value))
      (noTruth : ∀ holds, value ≠ .bool holds) :
      Search scope target body loopVariable (.error (.type (.predicate .any value.type)))
        (.error (.type (.operand .not value.type)))

theorem exists_search (scope : Scope) (target body : Expr) (loopVariable : String) :
    ∃ outcome other, Search scope target body loopVariable outcome other := by
  cases evaluates : evaluateIn scope target with
  | error fault => exact ⟨_, _, .noTarget evaluates⟩
  | ok value =>
      cases found : elements? value with
      | none => exact ⟨_, _, .noElements evaluates found⟩
      | some items =>
          have through : GoesThrough scope target items := ⟨value, evaluates, found⟩
          rcases exists_decides (fun item => evaluateIn (scope.bind loopVariable item) body) items
            with allFalse | ⟨outcome, decides⟩
          · exact ⟨_, _, .noneFound through allFalse⟩
          · have cases := cases_of_ne_false decides.ne_false
            rcases cases with rfl | ⟨fault, rfl⟩ | ⟨value, rfl, noTruth⟩
            · exact ⟨_, _, .found through decides⟩
            · exact ⟨_, _, .noValue through decides⟩
            · exact ⟨_, _, .noAnswer through decides noTruth⟩

theorem evaluateIn_not (operand : Expr) :
    evaluateIn scope (.unary .not operand) = evaluateIn scope operand >>= unaryOperation .not := by
  rw [evaluateIn]

theorem GoesThrough.dual_eq {items : List Json} (through : GoesThrough scope target items)
    (loopVariable : String) (body : Expr) :
    evaluateIn scope (.unary .not (.quantified target .all loopVariable (.unary .not body))) =
      (allElements (denied fun item => evaluateIn (scope.bind loopVariable item) body) items).map
        Json.bool >>= unaryOperation .not := by
  rw [evaluateIn_not, through.loop_eq]
  simp only [evaluateIn_not]
  rfl

theorem Search.eq (search : Search scope target body loopVariable outcome other) :
    evaluateIn scope (.quantified target .any loopVariable body) = outcome ∧
    evaluateIn scope (.unary .not (.quantified target .all loopVariable (.unary .not body))) =
      other := by
  cases search with
  | noTarget failed =>
      rw [evaluateIn_not, evaluateIn_quantified_of_error failed,
        evaluateIn_quantified_of_error failed]
      exact ⟨rfl, rfl⟩
  | noElements evaluates none =>
      rw [evaluateIn_not, evaluateIn_quantified_of_none evaluates none,
        evaluateIn_quantified_of_none evaluates none]
      exact ⟨rfl, rfl⟩
  | noneFound through allFalse =>
      rw [through.loop_eq, through.dual_eq, quantify, anyElement_of_false allFalse,
        allElements_of_false allFalse]
      exact ⟨rfl, rfl⟩
  | found through decides =>
      rw [through.loop_eq, through.dual_eq, quantify, anyElement_of_decides decides,
        allElements_of_decides decides]
      exact ⟨rfl, rfl⟩
  | noValue through decides =>
      rw [through.loop_eq, through.dual_eq, quantify, anyElement_of_decides decides,
        allElements_of_decides decides]
      exact ⟨rfl, rfl⟩
  | @noAnswer items value through decides noTruth =>
      have search : (Except.ok value >>= asPredicate .any) =
          .error (.type (.predicate .any value.type)) := asPredicate_of_ne noTruth .any
      have dual : (Except.ok value >>= unaryOperation .not) =
          .error (.type (.operand .not value.type)) := not_of_ne noTruth
      rw [through.loop_eq, through.dual_eq, quantify, anyElement_of_decides decides,
        allElements_of_decides decides, search, dual]
      exact ⟨rfl, rfl⟩

/-- The search for an element is the denial of the test that the body is false for all of them: both
have the same answer, and one fails just if the other does. -/
theorem evaluateIn_dual (scope : Scope) (target body : Expr) (loopVariable : String) :
    let search : Expr := .quantified target .any loopVariable body
    let dual : Expr := .unary .not (.quantified target .all loopVariable (.unary .not body))
    (∀ holds, evaluateIn scope search = .ok (.bool holds) ↔
      evaluateIn scope dual = .ok (.bool holds)) ∧
    ((∃ fault, evaluateIn scope search = .error fault) ↔
      ∃ fault, evaluateIn scope dual = .error fault) ∧
    ∀ outcome other, Search scope target body loopVariable outcome other ↔
      evaluateIn scope search = outcome ∧ evaluateIn scope dual = other := by
  intro search dual
  rcases exists_search scope target body loopVariable with ⟨outcome, other, ends⟩
  rcases ends.eq with ⟨searchEnds, dualEnds⟩
  refine ⟨?_, ?_, fun first second => ⟨Search.eq, ?_⟩⟩
  · intro holds
    rw [searchEnds, dualEnds]
    cases ends <;> simp
  · rw [searchEnds, dualEnds]
    cases ends <;> simp
  · rintro ⟨rfl, rfl⟩
    rw [searchEnds, dualEnds]
    exact ends

end

/-! ## Filters -/

section

variable {body : Json → Except Fault Json} {items : List Json}

theorem filterElements_eq_ok_iff {kept : List Json} :
    filterElements body items = .ok kept ↔
      (∀ item ∈ items, ∃ holds, body item = .ok (.bool holds)) ∧
        kept = items.filter fun item => isTrue (body item) := by
  induction items generalizing kept with
  | nil =>
      constructor
      · intro ok
        cases ok
        exact ⟨List.forall_mem_nil _, rfl⟩
      · rintro ⟨-, rfl⟩
        rfl
  | cons item rest induction =>
      rw [List.forall_mem_cons, filterElements]
      constructor
      · intro ok
        rcases ok_of_bind ok with ⟨value, isValue, afterValue⟩
        rcases ok_of_bind afterValue with ⟨holds, isPredicate, afterAnswer⟩
        rcases ok_of_bind afterAnswer with ⟨others, filtered, same⟩
        rcases induction.mp filtered with ⟨answers, rfl⟩
        have answer : value = .bool holds := by
          cases value <;> cases isPredicate
          rfl
        rw [answer] at isValue
        cases same
        refine ⟨⟨⟨holds, isValue⟩, answers⟩, ?_⟩
        rw [List.filter_cons, isValue, isTrue]
      · rintro ⟨⟨⟨holds, isValue⟩, answers⟩, rfl⟩
        rw [List.filter_cons, isValue]
        change (filterElements body rest >>= _) = _
        rw [induction.mpr ⟨answers, rfl⟩, isTrue]
        rfl

theorem mapElements_eq_ok_iff {values : List Json} :
    mapElements body items = .ok values ↔ values.map Except.ok = items.map body := by
  induction items generalizing values with
  | nil =>
      rw [mapElements, List.map_nil, List.map_eq_nil_iff]
      exact ⟨fun ok => (Except.ok.inj ok).symm, fun same => congrArg Except.ok same.symm⟩
  | cons item rest induction =>
      rw [mapElements, List.map_cons]
      constructor
      · intro ok
        rcases ok_of_bind ok with ⟨value, isValue, afterValue⟩
        rcases ok_of_bind afterValue with ⟨others, mapped, same⟩
        cases same
        rw [List.map_cons, induction.mp mapped, isValue]
      · intro same
        cases values with
        | nil => cases same
        | cons value others =>
            rw [List.map_cons, List.cons.injEq] at same
            rw [← same.1, induction.mpr same.2]
            rfl

end

section

variable {scope : Scope} {target body : Expr} {loopVariable : String} {kept : List Json}

section

variable {items : List Json} (through : GoesThrough scope target items)
  (answers : ∀ item ∈ items, ∃ holds,
    evaluateIn (scope.bind loopVariable item) body = .ok (.bool holds))
include through answers

theorem GoesThrough.any_eq :
    evaluateIn scope (.quantified target .any loopVariable body) =
      .ok (.bool (items.any fun item =>
        isTrue (evaluateIn (scope.bind loopVariable item) body))) := by
  rw [through.loop_eq, quantify, anyElement_of_answers answers]
  rfl

theorem GoesThrough.all_eq :
    evaluateIn scope (.quantified target .all loopVariable body) =
      .ok (.bool (items.all fun item =>
        isTrue (evaluateIn (scope.bind loopVariable item) body))) := by
  rw [through.loop_eq, quantify, allElements_of_answers answers]
  rfl

theorem GoesThrough.exists_map :
    ∃ values, evaluateIn scope (.quantified target .map loopVariable body) = .ok (.list values) ∧
      values.map Except.ok = items.map fun item =>
        evaluateIn (scope.bind loopVariable item) body := by
  let value (item : Json) := Json.bool (isTrue (evaluateIn (scope.bind loopVariable item) body))
  have mapped : (items.map value).map Except.ok = items.map fun item =>
      evaluateIn (scope.bind loopVariable item) body := by
    rw [List.map_map, List.map_inj_left]
    intro item member
    rcases answers item member with ⟨holds, isValue⟩
    simp only [Function.comp_apply, value, isValue, isTrue]
  refine ⟨items.map value, ?_, mapped⟩
  rw [through.loop_eq, quantify, mapElements_eq_ok_iff.mpr mapped]
  rfl

end

theorem evaluateIn_filter_iff :
    evaluateIn scope (.quantified target .filter loopVariable body) = .ok (.list kept) ↔
      ∃ items, GoesThrough scope target items ∧
        (∀ item ∈ items, ∃ holds,
          evaluateIn (scope.bind loopVariable item) body = .ok (.bool holds)) ∧
        kept = items.filter fun item =>
          isTrue (evaluateIn (scope.bind loopVariable item) body) := by
  constructor
  · intro ok
    rcases goesThrough_of_ok ok with ⟨items, through⟩
    rw [through.loop_eq, quantify] at ok
    cases filtered : filterElements (fun item => evaluateIn (scope.bind loopVariable item) body)
        items with
    | error fault =>
        rw [filtered] at ok
        cases ok
    | ok found =>
        rw [filtered] at ok
        cases ok
        exact ⟨items, through, filterElements_eq_ok_iff.mp filtered⟩
  · rintro ⟨items, through, keeps⟩
    rw [through.loop_eq, quantify, filterElements_eq_ok_iff.mpr keeps]
    rfl

/-- What a filter keeps, and what the other loops with its body give for the same elements and for
those that are kept. -/
theorem evaluateIn_filtered
    (ok : evaluateIn scope (.quantified target .filter loopVariable body) = .ok (.list kept)) :
    let valueFor (item : Json) : Except Fault Json :=
      evaluateIn (scope.bind loopVariable item) body
    let filtered : Expr := .quantified target .filter loopVariable body
    ∃ items, GoesThrough scope target items ∧
      kept = items.filter (fun item => isTrue (valueFor item)) ∧
      (∃ found, evaluateIn scope (.quantified target .any loopVariable body) = .ok (.bool found) ∧
        (found = true ↔ kept ≠ [])) ∧
      (∃ whole, evaluateIn scope (.quantified target .all loopVariable body) = .ok (.bool whole) ∧
        (whole = true ↔ kept.length = items.length)) ∧
      evaluateIn scope (.quantified filtered .all loopVariable body) = .ok (.bool true) ∧
      evaluateIn scope (.quantified filtered .filter loopVariable body) = .ok (.list kept) ∧
      ∃ values, evaluateIn scope (.quantified target .map loopVariable body) = .ok (.list values) ∧
        values.length = items.length ∧ values.map Except.ok = items.map valueFor := by
  intro valueFor filtered
  rcases evaluateIn_filter_iff.mp ok with ⟨items, through, answers, same⟩
  have throughKept : GoesThrough scope filtered kept := ⟨.list kept, ok, rfl⟩
  have answersKept : ∀ item ∈ kept, ∃ holds, valueFor item = .ok (.bool holds) := by
    intro item member
    rw [same] at member
    exact answers item (List.mem_filter.mp member).1
  have trueKept : ∀ item ∈ kept, isTrue (valueFor item) = true := by
    intro item member
    rw [same] at member
    exact (List.mem_filter.mp member).2
  have found : (items.any fun item => isTrue (valueFor item)) = true ↔ kept ≠ [] := by
    rw [same, Ne, List.filter_eq_nil_iff, ← Bool.not_eq_false, List.any_eq_false]
  have whole : (items.all fun item => isTrue (valueFor item)) = true ↔
      kept.length = items.length := by
    rw [same, List.length_filter_eq_length_iff, List.all_eq_true]
  have testKept : evaluateIn scope (.quantified filtered .all loopVariable body) =
      .ok (.bool true) := by
    rw [throughKept.all_eq answersKept, List.all_eq_true.mpr trueKept]
  have filterKept : evaluateIn scope (.quantified filtered .filter loopVariable body) =
      .ok (.list kept) :=
    evaluateIn_filter_iff.mpr
      ⟨kept, throughKept, answersKept, (List.filter_eq_self.mpr trueKept).symm⟩
  rcases through.exists_map answers with ⟨values, mapped, valuesFor⟩
  have sameLength : values.length = items.length := by
    rw [← List.length_map Except.ok, valuesFor, List.length_map]
  exact ⟨items, through, same, ⟨_, through.any_eq answers, found⟩,
    ⟨_, through.all_eq answers, whole⟩, testKept, filterKept, values, mapped, sameLength,
    valuesFor⟩

end

theorem evaluateIn_filtered_of_keys :
    let table : Json := .map [("a", .null), ("b", .bool true), ("c", .null)]
    let scope : Scope := ⟨[("limit", .string "b")], [("limit", .null), ("table", table)]⟩
    let target : Expr := .reference "table"
    let body : Expr := .binary .notEqual (.reference "key") (.reference "limit")
    let filtered : Expr := .quantified target .filter "key" body
    let kept : List Json := [.string "a", .string "c"]
    evaluateIn scope filtered = .ok (.list kept) ∧
      ∃ items, GoesThrough scope target items ∧
        (∃ whole, evaluateIn scope (.quantified target .all "key" body) = .ok (.bool whole) ∧
          (whole = true ↔ kept.length = items.length)) ∧
        evaluateIn scope (.quantified filtered .filter "key" body) = .ok (.list kept) := by
  intro table scope target body filtered kept
  have ok : evaluateIn scope filtered = .ok (.list kept) := rfl
  rcases evaluateIn_filtered ok with ⟨items, through, -, -, whole, -, filterKept, -⟩
  exact ⟨ok, items, through, whole, filterKept⟩

end LiterateTest.Expression
