import LiterateTest.Proofs.Expression.FreeVariable

/-! Names of loop variables. The variable of a loop can be given any other name that does not occur
already: the expression keeps its value, or its fault. -/

namespace LiterateTest.Expression

/-! ## Names -/

mutual
def variableNames : Expr → List String
  | .literal _ => []
  | .reference name => [name]
  | .list items => namesInItems items
  | .map entries => namesInEntries entries
  | .member target _ => variableNames target
  | .index target key => variableNames target ++ variableNames key
  | .call _ arguments => namesInItems arguments
  | .method target _ arguments => variableNames target ++ namesInItems arguments
  | .quantified target _ loopVariable body =>
      variableNames target ++ loopVariable :: variableNames body
  | .unary _ operand => variableNames operand
  | .binary _ left right => variableNames left ++ variableNames right
  | .conditional condition whenTrue whenFalse =>
      variableNames condition ++ variableNames whenTrue ++ variableNames whenFalse

def namesInItems : List Expr → List String
  | [] => []
  | item :: rest => variableNames item ++ namesInItems rest

def namesInEntries : List (Expr × Expr) → List String
  | [] => []
  | (key, value) :: rest => variableNames key ++ variableNames value ++ namesInEntries rest
end

mutual
theorem mem_variableNames {name : String} {bound : List String} :
    ∀ expr, name ∈ freeVariables bound expr → name ∈ variableNames expr
  | .literal _ => by
      rw [freeVariables]
      exact fun absent => nomatch absent
  | .reference found => by
      rw [freeVariables, variableNames]
      split
      · exact fun absent => nomatch absent
      · exact id
  | .list items => by
      rw [freeVariables, variableNames]
      exact mem_namesInItems items
  | .map entries => by
      rw [freeVariables, variableNames]
      exact mem_namesInEntries entries
  | .member target _ => by
      rw [freeVariables, variableNames]
      exact mem_variableNames target
  | .index target key => by
      rw [freeVariables, variableNames, List.mem_append, List.mem_append]
      exact Or.imp (mem_variableNames target) (mem_variableNames key)
  | .call _ arguments => by
      rw [freeVariables, variableNames]
      exact mem_namesInItems arguments
  | .method target _ arguments => by
      rw [freeVariables, variableNames, List.mem_append, List.mem_append]
      exact Or.imp (mem_variableNames target) (mem_namesInItems arguments)
  | .quantified target _ loopVariable body => by
      rw [freeVariables, variableNames, List.mem_append, List.mem_append]
      exact Or.imp (mem_variableNames target)
        fun member => List.mem_cons_of_mem loopVariable (mem_variableNames body member)
  | .unary _ operand => by
      rw [freeVariables, variableNames]
      exact mem_variableNames operand
  | .binary _ left right => by
      rw [freeVariables, variableNames, List.mem_append, List.mem_append]
      exact Or.imp (mem_variableNames left) (mem_variableNames right)
  | .conditional condition whenTrue whenFalse => by
      rw [freeVariables, variableNames, List.mem_append, List.mem_append, List.mem_append,
        List.mem_append]
      exact Or.imp (Or.imp (mem_variableNames condition) (mem_variableNames whenTrue))
        (mem_variableNames whenFalse)

theorem mem_namesInItems {name : String} {bound : List String} :
    ∀ items, name ∈ freeInItems bound items → name ∈ namesInItems items
  | [] => id
  | item :: rest => by
      rw [freeInItems, namesInItems, List.mem_append, List.mem_append]
      exact Or.imp (mem_variableNames item) (mem_namesInItems rest)

theorem mem_namesInEntries {name : String} {bound : List String} :
    ∀ entries, name ∈ freeInEntries bound entries → name ∈ namesInEntries entries
  | [] => id
  | (key, value) :: rest => by
      rw [freeInEntries, namesInEntries, List.mem_append, List.mem_append, List.mem_append,
        List.mem_append]
      exact Or.imp (Or.imp (mem_variableNames key) (mem_variableNames value))
        (mem_namesInEntries rest)
end

/-! ## Free occurrences -/

mutual
def renameFree (old fresh : String) : Expr → Expr
  | .literal value => .literal value
  | .reference name => .reference (if name = old then fresh else name)
  | .list items => .list (renameInItems old fresh items)
  | .map entries => .map (renameInEntries old fresh entries)
  | .member target field => .member (renameFree old fresh target) field
  | .index target key => .index (renameFree old fresh target) (renameFree old fresh key)
  | .call function arguments => .call function (renameInItems old fresh arguments)
  | .method target name arguments =>
      .method (renameFree old fresh target) name (renameInItems old fresh arguments)
  | .quantified target quantifier loopVariable body =>
      .quantified (renameFree old fresh target) quantifier loopVariable
        (if loopVariable = old then body else renameFree old fresh body)
  | .unary op operand => .unary op (renameFree old fresh operand)
  | .binary op left right => .binary op (renameFree old fresh left) (renameFree old fresh right)
  | .conditional condition whenTrue whenFalse =>
      .conditional (renameFree old fresh condition) (renameFree old fresh whenTrue)
        (renameFree old fresh whenFalse)

def renameInItems (old fresh : String) : List Expr → List Expr
  | [] => []
  | item :: rest => renameFree old fresh item :: renameInItems old fresh rest

def renameInEntries (old fresh : String) : List (Expr × Expr) → List (Expr × Expr)
  | [] => []
  | (key, value) :: rest =>
      (renameFree old fresh key, renameFree old fresh value) :: renameInEntries old fresh rest
end

namespace Scope

/-- Whether a scope has under a fresh name the value that another one has under the old name, and
agrees with it on all other names. -/
structure Renames (scope other : Scope) (old fresh : String) : Prop where
  isBound : scope.get? fresh ≠ none
  same : ∀ name, name ≠ fresh →
    scope.get? (if name = old then fresh else name) = other.get? name

variable {scope other : Scope} {old fresh : String}

theorem renames_bind (scope : Scope) (old fresh : String) (value : Json) :
    (scope.bind fresh value).Renames (scope.bind old value) old fresh := by
  constructor
  · rw [get?_bind, if_pos rfl]
    exact Option.some_ne_none value
  · intro name different
    rw [get?_bind, get?_bind]
    by_cases isOld : name = old
    · rw [if_pos isOld, if_pos rfl, if_pos isOld.symm]
    · rw [if_neg isOld, if_neg (Ne.symm different), if_neg (Ne.symm isOld)]

theorem Renames.bind (renames : scope.Renames other old fresh) {name : String}
    (notOld : name ≠ old) (notFresh : name ≠ fresh) (value : Json) :
    (scope.bind name value).Renames (other.bind name value) old fresh := by
  constructor
  · rw [get?_bind, if_neg notFresh]
    exact renames.isBound
  · intro found different
    have before := renames.same found different
    rw [get?_bind, get?_bind]
    by_cases isOld : found = old
    · rw [if_pos isOld] at before ⊢
      subst isOld
      rw [if_neg notFresh, if_neg notOld, before]
    · rw [if_neg isOld] at before ⊢
      rw [before]

theorem Renames.bind_old (renames : scope.Renames other old fresh) {names : List String}
    (unused : fresh ∉ names) (value : Json) :
    (scope.bind old value).AgreeOn (other.bind old value) names := by
  intro name member
  rw [get?_bind, get?_bind]
  split
  · rfl
  · next different =>
      have before := renames.same name fun isFresh => unused (isFresh ▸ member)
      rwa [if_neg (Ne.symm different)] at before

theorem Renames.lookup (renames : scope.Renames other old fresh) {name : String}
    (different : name ≠ fresh) :
    scope.lookup (if name = old then fresh else name) = other.lookup name := by
  have same := renames.same name different
  rw [Scope.lookup, Scope.lookup, same]
  split
  · rfl
  · next none =>
      rw [none] at same
      split at same
      · exact absurd same renames.isBound
      · next notOld => rw [if_neg notOld]

end Scope

-- By recursion over the expression. The fresh name is the variable of no loop on the way, so that
-- it is never hidden; the old one may be, and from there on the scopes agree.
mutual
theorem evaluateIn_renameFree {scope other : Scope} {old fresh : String}
    (renames : scope.Renames other old fresh) :
    ∀ expr, fresh ∉ variableNames expr →
      evaluateIn scope (renameFree old fresh expr) = evaluateIn other expr
  | .literal _, _ => by rw [renameFree, evaluateIn, evaluateIn]
  | .reference name, unused => by
      rw [variableNames, List.mem_singleton] at unused
      rw [renameFree, evaluateIn, evaluateIn]
      exact renames.lookup (Ne.symm unused)
  | .list items, unused => by
      rw [variableNames] at unused
      rw [renameFree, evaluateIn, evaluateIn, evaluateItems_renameInItems renames items unused]
  | .map entries, unused => by
      rw [variableNames] at unused
      rw [renameFree, evaluateIn, evaluateIn,
        evaluateEntries_renameInEntries renames [] entries unused]
  | .member target field, unused => by
      rw [variableNames] at unused
      rw [renameFree, evaluateIn, evaluateIn, evaluateIn_renameFree renames target unused]
  | .index target key, unused => by
      rw [variableNames, List.mem_append, not_or] at unused
      rw [renameFree, evaluateIn, evaluateIn, evaluateIn_renameFree renames target unused.1,
        evaluateIn_renameFree renames key unused.2]
  | .call function arguments, unused => by
      rw [variableNames] at unused
      rw [renameFree]
      exact evaluateIn_call_congr function (evaluateItems_renameInItems renames arguments unused)
        (evaluateHas_renameInItems renames arguments unused)
  | .method target name arguments, unused => by
      rw [variableNames, List.mem_append, not_or] at unused
      rw [renameFree, evaluateIn, evaluateIn, evaluateIn_renameFree renames target unused.1,
        evaluateItems_renameInItems renames arguments unused.2]
  | .quantified target quantifier loopVariable body, unused => by
      rw [variableNames, List.mem_append, List.mem_cons, not_or, not_or] at unused
      rcases unused with ⟨unusedTarget, notLoop, unusedBody⟩
      rw [renameFree]
      apply evaluateIn_quantified_congr
      · exact evaluateIn_renameFree renames target unusedTarget
      · intro item
        by_cases hides : loopVariable = old
        · rw [if_pos hides, hides]
          have nothing : (scope.bind old item).AgreeOn (other.bind old item) [] :=
            fun _ member => nomatch member
          apply evaluateIn_eq_of_agreeOn nothing
          exact renames.bind_old (fun isFree => unusedBody (mem_variableNames body isFree)) item
        · rw [if_neg hides]
          exact evaluateIn_renameFree (renames.bind hides (Ne.symm notLoop) item) body unusedBody
  | .unary op operand, unused => by
      rw [variableNames] at unused
      rw [renameFree, evaluateIn, evaluateIn, evaluateIn_renameFree renames operand unused]
  | .binary op left right, unused => by
      rw [variableNames, List.mem_append, not_or] at unused
      rw [renameFree]
      exact evaluateIn_binary_congr op (evaluateIn_renameFree renames left unused.1)
        (evaluateIn_renameFree renames right unused.2)
  | .conditional condition whenTrue whenFalse, unused => by
      rw [variableNames, List.mem_append, List.mem_append, not_or, not_or] at unused
      rw [renameFree, evaluateIn, evaluateIn, evaluateIn_renameFree renames condition unused.1.1,
        evaluateIn_renameFree renames whenTrue unused.1.2,
        evaluateIn_renameFree renames whenFalse unused.2]

theorem evaluateItems_renameInItems {scope other : Scope} {old fresh : String}
    (renames : scope.Renames other old fresh) :
    ∀ items, fresh ∉ namesInItems items →
      evaluateItems scope (renameInItems old fresh items) = evaluateItems other items
  | [], _ => rfl
  | item :: rest, unused => by
      rw [namesInItems, List.mem_append, not_or] at unused
      rw [renameInItems, evaluateItems, evaluateItems, evaluateIn_renameFree renames item unused.1,
        evaluateItems_renameInItems renames rest unused.2]

theorem evaluateEntries_renameInEntries {scope other : Scope} {old fresh : String}
    (renames : scope.Renames other old fresh) (record : Record Json) :
    ∀ entries, fresh ∉ namesInEntries entries →
      evaluateEntries scope record (renameInEntries old fresh entries) =
        evaluateEntries other record entries
  | [], _ => rfl
  | (key, value) :: rest, unused => by
      rw [namesInEntries, List.mem_append, List.mem_append, not_or, not_or] at unused
      have others := fun record => evaluateEntries_renameInEntries renames record rest unused.2
      rw [renameInEntries, evaluateEntries, evaluateEntries,
        evaluateIn_renameFree renames key unused.1.1,
        evaluateIn_renameFree renames value unused.1.2]
      simp only [others]

theorem evaluateHas_renameInItems {scope other : Scope} {old fresh : String}
    (renames : scope.Renames other old fresh) :
    ∀ arguments, fresh ∉ namesInItems arguments →
      evaluateHas scope (renameInItems old fresh arguments) = evaluateHas other arguments
  | [], _ => rfl
  | first :: _ :: _, _ => by cases first <;> rfl
  | [argument], unused => by
      cases argument with
      | member target name =>
          rw [namesInItems, variableNames, List.mem_append, not_or] at unused
          rw [renameInItems, renameFree, renameInItems, evaluateHas, evaluateHas,
            evaluateIn_renameFree renames target unused.1]
      | _ => rfl
end

/-! ## Loops anywhere -/

/-- An expression with a fresh name for the variable of one of its loops, and for what refers to it
in the body of that loop. -/
inductive RenamesLoop (fresh : String) : Expr → Expr → Prop
  | loop (target : Expr) (quantifier : Quantifier) (loopVariable : String) (body : Expr) :
      RenamesLoop fresh (.quantified target quantifier loopVariable body)
        (.quantified target quantifier fresh (renameFree loopVariable fresh body))
  | item {expr renamed : Expr} (before after : List Expr)
      (inside : RenamesLoop fresh expr renamed) :
      RenamesLoop fresh (.list (before ++ expr :: after)) (.list (before ++ renamed :: after))
  | entryKey {expr renamed : Expr} (value : Expr) (before after : List (Expr × Expr))
      (inside : RenamesLoop fresh expr renamed) :
      RenamesLoop fresh (.map (before ++ (expr, value) :: after))
        (.map (before ++ (renamed, value) :: after))
  | entryValue {expr renamed : Expr} (key : Expr) (before after : List (Expr × Expr))
      (inside : RenamesLoop fresh expr renamed) :
      RenamesLoop fresh (.map (before ++ (key, expr) :: after))
        (.map (before ++ (key, renamed) :: after))
  | memberTarget {expr renamed : Expr} (field : String)
      (inside : RenamesLoop fresh expr renamed) :
      RenamesLoop fresh (.member expr field) (.member renamed field)
  | indexTarget {expr renamed : Expr} (key : Expr) (inside : RenamesLoop fresh expr renamed) :
      RenamesLoop fresh (.index expr key) (.index renamed key)
  | indexKey {expr renamed : Expr} (target : Expr) (inside : RenamesLoop fresh expr renamed) :
      RenamesLoop fresh (.index target expr) (.index target renamed)
  | callArgument {expr renamed : Expr} (function : String) (before after : List Expr)
      (inside : RenamesLoop fresh expr renamed) :
      RenamesLoop fresh (.call function (before ++ expr :: after))
        (.call function (before ++ renamed :: after))
  | methodTarget {expr renamed : Expr} (name : String) (arguments : List Expr)
      (inside : RenamesLoop fresh expr renamed) :
      RenamesLoop fresh (.method expr name arguments) (.method renamed name arguments)
  | methodArgument {expr renamed : Expr} (target : Expr) (name : String) (before after : List Expr)
      (inside : RenamesLoop fresh expr renamed) :
      RenamesLoop fresh (.method target name (before ++ expr :: after))
        (.method target name (before ++ renamed :: after))
  | loopTarget {expr renamed : Expr} (quantifier : Quantifier) (loopVariable : String)
      (body : Expr) (inside : RenamesLoop fresh expr renamed) :
      RenamesLoop fresh (.quantified expr quantifier loopVariable body)
        (.quantified renamed quantifier loopVariable body)
  | loopBody {expr renamed : Expr} (target : Expr) (quantifier : Quantifier)
      (loopVariable : String) (inside : RenamesLoop fresh expr renamed) :
      RenamesLoop fresh (.quantified target quantifier loopVariable expr)
        (.quantified target quantifier loopVariable renamed)
  | operand {expr renamed : Expr} (op : UnaryOp) (inside : RenamesLoop fresh expr renamed) :
      RenamesLoop fresh (.unary op expr) (.unary op renamed)
  | left {expr renamed : Expr} (op : BinaryOp) (right : Expr)
      (inside : RenamesLoop fresh expr renamed) :
      RenamesLoop fresh (.binary op expr right) (.binary op renamed right)
  | right {expr renamed : Expr} (op : BinaryOp) (left : Expr)
      (inside : RenamesLoop fresh expr renamed) :
      RenamesLoop fresh (.binary op left expr) (.binary op left renamed)
  | condition {expr renamed : Expr} (whenTrue whenFalse : Expr)
      (inside : RenamesLoop fresh expr renamed) :
      RenamesLoop fresh (.conditional expr whenTrue whenFalse)
        (.conditional renamed whenTrue whenFalse)
  | whenTrue {expr renamed : Expr} (condition whenFalse : Expr)
      (inside : RenamesLoop fresh expr renamed) :
      RenamesLoop fresh (.conditional condition expr whenFalse)
        (.conditional condition renamed whenFalse)
  | whenFalse {expr renamed : Expr} (condition whenTrue : Expr)
      (inside : RenamesLoop fresh expr renamed) :
      RenamesLoop fresh (.conditional condition whenTrue expr)
        (.conditional condition whenTrue renamed)

theorem namesInItems_append (items others : List Expr) :
    namesInItems (items ++ others) = namesInItems items ++ namesInItems others := by
  induction items with
  | nil => rfl
  | cons item rest induction =>
      rw [List.cons_append, namesInItems, namesInItems, induction, List.append_assoc]

theorem namesInEntries_append (entries others : List (Expr × Expr)) :
    namesInEntries (entries ++ others) = namesInEntries entries ++ namesInEntries others := by
  induction entries with
  | nil => rfl
  | cons entry rest induction =>
      rw [List.cons_append, namesInEntries, namesInEntries, induction, ← List.append_assoc]

/-- Expressions that can stand for each other in any place. The argument of `has` is not evaluated
as a whole, so that this takes more than the same outcome. -/
structure Interchangeable (expr other : Expr) : Prop where
  value : ∀ scope, evaluateIn scope expr = evaluateIn scope other
  field : ∀ scope, evaluateHas scope [expr] = evaluateHas scope [other]

namespace Interchangeable

variable {expr other : Expr}

theorem refl (expr : Expr) : Interchangeable expr expr := ⟨fun _ => rfl, fun _ => rfl⟩

/-! A whole is interchangeable with another one if their parts are. -/

theorem items (alike : Interchangeable expr other) (scope : Scope) (before after : List Expr) :
    evaluateItems scope (before ++ expr :: after) =
      evaluateItems scope (before ++ other :: after) := by
  induction before with
  | nil => rw [List.nil_append, List.nil_append, evaluateItems, evaluateItems, alike.value]
  | cons item rest induction =>
      rw [List.cons_append, List.cons_append, evaluateItems, evaluateItems, induction]

theorem entries {key value otherKey otherValue : Expr} (keys : Interchangeable key otherKey)
    (values : Interchangeable value otherValue) (scope : Scope) (record : Record Json)
    (before after : List (Expr × Expr)) :
    evaluateEntries scope record (before ++ (key, value) :: after) =
      evaluateEntries scope record (before ++ (otherKey, otherValue) :: after) := by
  induction before generalizing record with
  | nil =>
      rw [List.nil_append, List.nil_append, evaluateEntries, evaluateEntries, keys.value,
        values.value]
  | cons entry rest induction =>
      rw [List.cons_append, List.cons_append, evaluateEntries, evaluateEntries]
      simp only [induction]

theorem fields (alike : Interchangeable expr other) (scope : Scope) (before after : List Expr) :
    evaluateHas scope (before ++ expr :: after) =
      evaluateHas scope (before ++ other :: after) := by
  have several (first second : Expr) (rest : List Expr) :
      evaluateHas scope (first :: second :: rest) = .error (.type .fieldSelection) := by
    cases first <;> rfl
  cases before with
  | nil =>
      cases after with
      | nil => exact alike.field scope
      | cons second rest => exact (several _ _ _).trans (several _ _ _).symm
  | cons first before =>
      cases before with
      | nil => exact (several _ _ _).trans (several _ _ _).symm
      | cons second before => exact (several _ _ _).trans (several _ _ _).symm

theorem list (alike : Interchangeable expr other) (before after : List Expr) :
    Interchangeable (.list (before ++ expr :: after)) (.list (before ++ other :: after)) :=
  ⟨fun scope => by rw [evaluateIn, evaluateIn, alike.items], fun _ => rfl⟩

theorem map {key value otherKey otherValue : Expr} (keys : Interchangeable key otherKey)
    (values : Interchangeable value otherValue) (before after : List (Expr × Expr)) :
    Interchangeable (.map (before ++ (key, value) :: after))
      (.map (before ++ (otherKey, otherValue) :: after)) :=
  ⟨fun scope => by rw [evaluateIn, evaluateIn, keys.entries values], fun _ => rfl⟩

theorem member (alike : Interchangeable expr other) (field : String) :
    Interchangeable (.member expr field) (.member other field) :=
  ⟨fun scope => by rw [evaluateIn, evaluateIn, alike.value],
    fun scope => by rw [evaluateHas, evaluateHas, alike.value]⟩

theorem index {key otherKey : Expr} (targets : Interchangeable expr other)
    (keys : Interchangeable key otherKey) :
    Interchangeable (.index expr key) (.index other otherKey) :=
  ⟨fun scope => by rw [evaluateIn, evaluateIn, targets.value, keys.value], fun _ => rfl⟩

theorem call (alike : Interchangeable expr other) (function : String) (before after : List Expr) :
    Interchangeable (.call function (before ++ expr :: after))
      (.call function (before ++ other :: after)) :=
  ⟨fun scope => evaluateIn_call_congr function (alike.items scope before after)
    (alike.fields scope before after), fun _ => rfl⟩

theorem methodTarget (alike : Interchangeable expr other) (name : String)
    (arguments : List Expr) :
    Interchangeable (.method expr name arguments) (.method other name arguments) :=
  ⟨fun scope => by rw [evaluateIn, evaluateIn, alike.value], fun _ => rfl⟩

theorem methodArgument (alike : Interchangeable expr other) (target : Expr) (name : String)
    (before after : List Expr) :
    Interchangeable (.method target name (before ++ expr :: after))
      (.method target name (before ++ other :: after)) :=
  ⟨fun scope => by rw [evaluateIn, evaluateIn, alike.items], fun _ => rfl⟩

theorem quantified {body otherBody : Expr} (targets : Interchangeable expr other)
    (bodies : Interchangeable body otherBody) (quantifier : Quantifier) (loopVariable : String) :
    Interchangeable (.quantified expr quantifier loopVariable body)
      (.quantified other quantifier loopVariable otherBody) :=
  ⟨fun scope => evaluateIn_quantified_congr quantifier (targets.value scope)
    fun item => bodies.value (scope.bind loopVariable item), fun _ => rfl⟩

theorem unary (alike : Interchangeable expr other) (op : UnaryOp) :
    Interchangeable (.unary op expr) (.unary op other) :=
  ⟨fun scope => by rw [evaluateIn, evaluateIn, alike.value], fun _ => rfl⟩

theorem binary {right otherRight : Expr} (lefts : Interchangeable expr other)
    (rights : Interchangeable right otherRight) (op : BinaryOp) :
    Interchangeable (.binary op expr right) (.binary op other otherRight) :=
  ⟨fun scope => evaluateIn_binary_congr op (lefts.value scope) (rights.value scope), fun _ => rfl⟩

theorem conditional {whenTrue whenFalse otherTrue otherFalse : Expr}
    (conditions : Interchangeable expr other) (first : Interchangeable whenTrue otherTrue)
    (second : Interchangeable whenFalse otherFalse) :
    Interchangeable (.conditional expr whenTrue whenFalse)
      (.conditional other otherTrue otherFalse) :=
  ⟨fun scope => by rw [evaluateIn, evaluateIn, conditions.value, first.value, second.value],
    fun _ => rfl⟩

end Interchangeable

theorem interchangeable_of_renamesLoop {fresh : String} {expr renamed : Expr}
    (renames : RenamesLoop fresh expr renamed) (unused : fresh ∉ variableNames expr) :
    Interchangeable renamed expr := by
  induction renames with
  | loop target quantifier loopVariable body =>
      simp only [variableNames, List.mem_append, List.mem_cons, not_or] at unused
      refine ⟨fun scope => ?_, fun _ => rfl⟩
      apply evaluateIn_quantified_congr quantifier rfl
      intro item
      exact evaluateIn_renameFree (scope.renames_bind loopVariable fresh item) body unused.2.2
  | item before after inside induction =>
      simp only [variableNames, namesInItems_append, namesInItems, List.mem_append, not_or]
        at unused
      exact (induction unused.2.1).list before after
  | entryKey value before after inside induction =>
      simp only [variableNames, namesInEntries_append, namesInEntries, List.mem_append, not_or]
        at unused
      exact (induction unused.2.1.1).map (.refl value) before after
  | entryValue key before after inside induction =>
      simp only [variableNames, namesInEntries_append, namesInEntries, List.mem_append, not_or]
        at unused
      exact (Interchangeable.refl key).map (induction unused.2.1.2) before after
  | memberTarget field inside induction =>
      rw [variableNames] at unused
      exact (induction unused).member field
  | indexTarget key inside induction =>
      rw [variableNames, List.mem_append, not_or] at unused
      exact (induction unused.1).index (.refl key)
  | indexKey target inside induction =>
      rw [variableNames, List.mem_append, not_or] at unused
      exact (Interchangeable.refl target).index (induction unused.2)
  | callArgument function before after inside induction =>
      simp only [variableNames, namesInItems_append, namesInItems, List.mem_append, not_or]
        at unused
      exact (induction unused.2.1).call function before after
  | methodTarget name arguments inside induction =>
      rw [variableNames, List.mem_append, not_or] at unused
      exact (induction unused.1).methodTarget name arguments
  | methodArgument target name before after inside induction =>
      simp only [variableNames, namesInItems_append, namesInItems, List.mem_append, not_or]
        at unused
      exact (induction unused.2.2.1).methodArgument target name before after
  | loopTarget quantifier loopVariable body inside induction =>
      rw [variableNames, List.mem_append, not_or] at unused
      exact (induction unused.1).quantified (.refl body) quantifier loopVariable
  | loopBody target quantifier loopVariable inside induction =>
      simp only [variableNames, List.mem_append, List.mem_cons, not_or] at unused
      exact (Interchangeable.refl target).quantified (induction unused.2.2) quantifier loopVariable
  | operand op inside induction =>
      rw [variableNames] at unused
      exact (induction unused).unary op
  | left op right inside induction =>
      rw [variableNames, List.mem_append, not_or] at unused
      exact (induction unused.1).binary (.refl right) op
  | right op left inside induction =>
      rw [variableNames, List.mem_append, not_or] at unused
      exact (Interchangeable.refl left).binary (induction unused.2) op
  | condition whenTrue whenFalse inside induction =>
      simp only [variableNames, List.mem_append, not_or] at unused
      exact (induction unused.1.1).conditional (.refl whenTrue) (.refl whenFalse)
  | whenTrue condition whenFalse inside induction =>
      simp only [variableNames, List.mem_append, not_or] at unused
      exact (Interchangeable.refl condition).conditional (induction unused.1.2) (.refl whenFalse)
  | whenFalse condition whenTrue inside induction =>
      simp only [variableNames, List.mem_append, not_or] at unused
      exact (Interchangeable.refl condition).conditional (.refl whenTrue) (induction unused.2)

/-- Scoping is lexical: of the variables only the values of the free ones matter, and the names of
loop variables do not. -/
theorem evaluate_lexical (expr : Expr) :
    (∀ bindings other : Record Json,
      (∀ name ∈ freeVariables [] expr, Record.get? name bindings = Record.get? name other) →
      evaluate bindings expr = evaluate other expr) ∧
    ∀ fresh renamed, fresh ∉ variableNames expr → RenamesLoop fresh expr renamed →
      ∀ bindings, evaluate bindings renamed = evaluate bindings expr := by
  constructor
  · intro bindings other agree
    exact evaluate_eq_of_agree agree
  · intro fresh renamed unused renames bindings
    exact (interchangeable_of_renamesLoop renames unused).value ⟨[], bindings⟩

theorem evaluate_lexical_of_shadowing :
    let inner (outer : String) : Expr :=
      .quantified (.list [.reference outer]) .any "x"
        (.binary .equal (.reference "x") (.reference "limit"))
    let expr : Expr := .quantified (.reference "x") .all "x" (inner "x")
    let bindings : Record Json := [("limit", .bool true), ("x", .list [.bool true])]
    let other : Record Json := ("item", .null) :: bindings
    ((∀ name ∈ freeVariables [] expr, Record.get? name bindings = Record.get? name other) ∧
        evaluate bindings expr = evaluate other expr) ∧
      "item" ∉ variableNames expr ∧
        RenamesLoop "item" expr (.quantified (.reference "x") .all "item" (inner "item")) ∧
        evaluate other (.quantified (.reference "x") .all "item" (inner "item")) =
          evaluate other expr := by
  intro inner expr bindings other
  have free : freeVariables [] expr = ["x", "limit"] := by decide
  have agree : ∀ name ∈ freeVariables [] expr,
      Record.get? name bindings = Record.get? name other := by
    rw [free, List.forall_mem_cons, List.forall_mem_singleton]
    exact ⟨rfl, rfl⟩
  have unused : "item" ∉ variableNames expr := by decide
  have renames : RenamesLoop "item" expr
      (.quantified (.reference "x") .all "item" (inner "item")) := .loop _ _ "x" (inner "x")
  exact ⟨⟨agree, (evaluate_lexical expr).1 bindings other agree⟩, unused, renames,
    (evaluate_lexical expr).2 "item" _ unused renames other⟩

end LiterateTest.Expression
