import LiterateTest.Proofs.Expression.Height
import Mathlib.Order.Bounds.Defs

/-! Expressions as high as they can be: behind a list come selections, and then chains of operators
of each level, as long as the nesting allows, within the condition of another expression. -/

namespace LiterateTest.Expression

/-! ## Tokens that can be written -/

def Spelled (tokens : List Token) : Prop :=
  ∃ text, HasTokens text tokens

theorem HasTokens.afterBlank {text : List Char} {tokens : List Token}
    (hasTokens : HasTokens text tokens) : HasTokens (' ' :: text) tokens := by
  intro offset
  exact hasTokens (offset + 1)

theorem Spelled.append {tokens more : List Token} (first : Spelled tokens)
    (second : Spelled more) : Spelled (tokens ++ more) := by
  rcases first with ⟨text, hasTokens⟩
  rcases second with ⟨others, hasOthers⟩
  exact ⟨text ++ ' ' :: others, hasTokens.append hasOthers.afterBlank (separates_blank rfl)⟩

theorem spelled_name : Spelled [.word "a"] :=
  ⟨['a'], fun offset => ⟨[⟨.word "a", offset⟩], rfl, rfl⟩⟩

theorem Spelled.bracketed {tokens : List Token} (spelled : Spelled tokens) :
    Spelled (.leftBracket :: (tokens ++ [.rightBracket])) := by
  have opener : Spelled [.leftBracket] := ⟨['['], fun offset => ⟨[⟨_, offset⟩], rfl, rfl⟩⟩
  have closer : Spelled [.rightBracket] := ⟨[']'], fun offset => ⟨[⟨_, offset⟩], rfl, rfl⟩⟩
  exact opener.append (spelled.append closer)

theorem Spelled.selected {tokens : List Token} (spelled : Spelled tokens) :
    Spelled (tokens ++ [.dot, .word "a"]) := by
  have selection : Spelled [.dot, .word "a"] :=
    ⟨['.', 'a'], fun offset => ⟨[⟨_, offset⟩, ⟨.word "a", _⟩], rfl, rfl⟩⟩
  exact spelled.append selection

theorem Spelled.chosen {tokens : List Token} (spelled : Spelled tokens) :
    Spelled (tokens ++ [.question, .word "a", .colon, .word "a"]) := by
  have branches : Spelled [.question, .word "a", .colon, .word "a"] :=
    ⟨"? a : a".toList, fun offset =>
      ⟨[⟨_, offset⟩, ⟨.word "a", _⟩, ⟨_, _⟩, ⟨.word "a", _⟩], rfl, rfl⟩⟩
  exact spelled.append branches

theorem Level.exists_operator (level : Level) :
    ∃ token op, level.operator? token = some op ∧ Spelled [token] := by
  cases level with
  | product => exact ⟨.star, .mul, rfl, ['*'], fun offset => ⟨[⟨_, offset⟩], rfl, rfl⟩⟩
  | sum => exact ⟨.plus, .add, rfl, ['+'], fun offset => ⟨[⟨_, offset⟩], rfl, rfl⟩⟩
  | relation => exact ⟨.less, .less, rfl, ['<'], fun offset => ⟨[⟨_, offset⟩], rfl, rfl⟩⟩
  | conjunction =>
      exact ⟨.andAnd, .and, rfl, ['&', '&'], fun offset => ⟨[⟨_, offset⟩], rfl, rfl⟩⟩
  | disjunction => exact ⟨.orOr, .or, rfl, ['|', '|'], fun offset => ⟨[⟨_, offset⟩], rfl, rfl⟩⟩

def Attains (phrase : Expr → Phrase) (nesting height : Nat) : Prop :=
  ∃ expr tokens, Derives (phrase expr) tokens nesting ∧ Spelled tokens ∧ expr.height = height

namespace Attains

variable {nesting height : Nat}

theorem list (attains : Attains .expression nesting height) :
    Attains .primary nesting (height + 1) := by
  rcases attains with ⟨expr, tokens, derives, spelled, rfl⟩
  refine ⟨_, _, .list (.someArguments (.lastItem derives)), spelled.bracketed, ?_⟩
  simp [Expr.height, Expr.itemsHeight]

theorem postfixed (attains : Attains .primary nesting height) {length : Nat}
    (le : length ≤ nesting) : Attains (.postfixed length) nesting (height + length) := by
  induction length with
  | zero =>
      rcases attains with ⟨expr, tokens, derives, spelled, same⟩
      exact ⟨expr, tokens, .bare derives, spelled, same⟩
  | succ length induction =>
      rcases induction (Nat.le_of_succ_le le) with ⟨target, before, derives, spelled, same⟩
      refine ⟨_, _, (derives.member "a").cast rfl (Nat.max_eq_left le), spelled.selected, ?_⟩
      rw [Expr.height, same, Nat.add_assoc]

theorem chain {level : Level} (attains : Attains (.operand level) nesting height) {length : Nat}
    (le : length ≤ nesting) : Attains (.chain level length) nesting (height + length) := by
  induction length with
  | zero =>
      rcases attains with ⟨expr, tokens, derives, spelled, same⟩
      exact ⟨expr, tokens, .first derives, spelled, same⟩
  | succ length induction =>
      rcases induction (Nat.le_of_succ_le le) with ⟨left, before, derives, spelled, same⟩
      rcases level.exists_operator with ⟨token, op, isOp, sign⟩
      refine ⟨.binary op left (.reference "a"), _,
        (derives.binary isOp (derives_name level)).cast rfl ?_,
        spelled.append (sign.append spelled_name), ?_⟩
      · omega
      · have positive := left.height_pos
        simp only [Expr.height]
        omega

theorem operand (attains : Attains .primary nesting height) (level : Level) :
    Attains (.operand level) nesting (height + (level.rank - 1) * nesting) := by
  cases isTighter : level.tighter? with
  | none =>
      cases Level.eq_product_of_none isTighter
      rcases attains.postfixed (Nat.le_refl nesting) with ⟨expr, tokens, derives, spelled, same⟩
      exact ⟨expr, tokens, .factor (.plain derives), spelled, by simp [same, Level.rank]⟩
  | some tighter =>
      rcases (attains.operand tighter).chain (Nat.le_refl nesting) with
        ⟨expr, tokens, derives, spelled, same⟩
      refine ⟨expr, tokens, .tighter isTighter derives, spelled, ?_⟩
      rw [same, Level.rank_sub_one_mul isTighter, Nat.add_assoc]
  termination_by level.rank
  decreasing_by
    have rank := Level.rank_of_tighter isTighter
    omega

theorem conditional {length : Nat} (positive : 0 < nesting)
    (attains : Attains (.chain .disjunction length) nesting height) :
    Attains .expression (nesting + 1) (height + 1) := by
  rcases attains with ⟨expr, tokens, derives, spelled, rfl⟩
  have whenTrue : Derives (.chain .disjunction 0 (.reference "a")) [.word "a"] 0 :=
    .first (derives_name _)
  have derived := derives.conditional whenTrue whenTrue.unconditional
  refine ⟨_, _, derived.cast rfl (by omega), spelled.chosen, ?_⟩
  have height := expr.height_pos
  simp only [Expr.height]
  omega

end Attains

theorem attains_peak {nesting : Nat} (positive : 0 < nesting) :
    Attains .expression nesting (peak nesting) := by
  induction nesting, positive using Nat.le_induction with
  | base =>
      have derives : Derives (.expression (.reference "a")) [.word "a"] 1 :=
        .unconditional (.first (derives_name _))
      exact ⟨_, _, derives, spelled_name, rfl⟩
  | succ nesting positive induction =>
      have chain := (induction.list.operand .disjunction).chain (Nat.le_refl _)
      have height : peak nesting + 1 + (Level.disjunction.rank - 1) * nesting + nesting + 1 =
          peak (nesting + 1) := by
        rw [peak_succ positive]
        simp only [Level.rank]
        omega
      rw [← height]
      exact chain.conditional positive

/-- How high what is accepted can be. -/
theorem isGreatest_height :
    IsGreatest {height | ∃ source expr, parse source = .ok expr ∧ expr.height = height}
      (3 * maxDepth ^ 2 - maxDepth - 1) := by
  have positive : 0 < maxDepth := by decide
  rw [← peak_eq positive]
  constructor
  · rcases attains_peak positive with ⟨expr, tokens, derives, ⟨text, hasTokens⟩, same⟩
    exact ⟨String.ofList text, expr, parse_of_derives derives (Nat.le_refl _) hasTokens, same⟩
  · rintro height ⟨source, expr, ok, rfl⟩
    rcases derives_of_parse ok with ⟨lexemes, nesting, -, fits, derives⟩
    exact derives.height_le_peak maxDepth fits

end LiterateTest.Expression
