import LiterateTest.Proofs.Expression.Grammar

/-! The tokens of a phrase that stand in none of its brackets: among them are the operators that
hold the phrase together, and none that are looser. -/

namespace LiterateTest.Expression

/-! ## Brackets -/

/-- The tokens that stand in no brackets, of a text that itself begins in so many. -/
def outsideAt : (depth : Nat) → List Token → List Token
  | _, [] => []
  | depth, token :: rest =>
      if token.opens then outsideAt (depth + 1) rest
      else if token.closes then outsideAt (depth - 1) rest
      else if depth = 0 then token :: outsideAt depth rest
      else outsideAt depth rest

def outside (tokens : List Token) : List Token := outsideAt 0 tokens

theorem mem_of_mem_outsideAt {depth : Nat} {token : Token} {tokens : List Token}
    (member : token ∈ outsideAt depth tokens) : token ∈ tokens := by
  induction tokens generalizing depth with
  | nil => exact member
  | cons first rest induction =>
      rw [outsideAt] at member
      split at member
      · exact List.mem_cons_of_mem _ (induction member)
      · split at member
        · exact List.mem_cons_of_mem _ (induction member)
        · split at member
          · rcases List.mem_cons.mp member with rfl | member
            · exact List.mem_cons_self
            · exact List.mem_cons_of_mem _ (induction member)
          · exact List.mem_cons_of_mem _ (induction member)

example :
    outside [.word "a", .andAnd, .leftParen, .word "b", .andAnd, .word "c", .rightParen] =
      [.word "a", .andAnd] := by
  decide

structure Balanced (tokens : List Token) : Prop where
  outer : ∀ rest, outside (tokens ++ rest) = outside tokens ++ outside rest
  inner : ∀ depth rest, outsideAt (depth + 1) (tokens ++ rest) = outsideAt (depth + 1) rest

namespace Balanced

theorem nil : Balanced [] := ⟨fun _ => rfl, fun _ _ => rfl⟩

theorem append {before after : List Token} (first : Balanced before) (second : Balanced after) :
    Balanced (before ++ after) := by
  constructor
  · intro rest
    rw [List.append_assoc, first.outer, second.outer, first.outer, List.append_assoc]
  · intro depth rest
    rw [List.append_assoc, first.inner, second.inner]

theorem cons {token : Token} {tokens : List Token} (opens : token.opens = false)
    (closes : token.closes = false) (balanced : Balanced tokens) : Balanced (token :: tokens) := by
  constructor
  · intro rest
    have outer := balanced.outer rest
    rw [outside, outside] at outer
    simp only [outside, List.cons_append, outsideAt, opens, closes, outer]
    rfl
  · intro depth rest
    simp [outsideAt, opens, closes, balanced.inner]

theorem brackets {opener closer : Token} {inside : List Token} (opens : opener.opens = true)
    (isCloser : closer.opens = false ∧ closer.closes = true) (balanced : Balanced inside) :
    Balanced (opener :: (inside ++ [closer])) := by
  constructor
  · intro rest
    simp [outside, outsideAt, opens, isCloser, balanced.inner]
  · intro depth rest
    simp [outsideAt, opens, isCloser, balanced.inner]

end Balanced

theorem outside_brackets {opener closer : Token} {inside : List Token}
    (opens : opener.opens = true) (isCloser : closer.opens = false ∧ closer.closes = true)
    (balanced : Balanced inside) : outside (opener :: (inside ++ [closer])) = [] := by
  simp [outside, outsideAt, opens, isCloser, balanced.inner]

theorem outside_cons {token : Token} {rest : List Token} (opens : token.opens = false)
    (closes : token.closes = false) : outside (token :: rest) = token :: outside rest := by
  simp [outside, outsideAt, opens, closes]

theorem opens_of_operator? {level : Level} {token : Token} {op : BinaryOp}
    (isOp : level.operator? token = some op) : token.opens = false ∧ token.closes = false := by
  cases level <;> cases token <;> first | exact ⟨rfl, rfl⟩ | cases isOp

theorem opens_of_unaryOperator? {token : Token} {op : UnaryOp}
    (isOp : unaryOperator? token = some op) : token.opens = false := by
  cases token <;> first | rfl | cases isOp

theorem opens_of_literal? {token : Token} {expr : Expr} (found : token.literal? = some expr) :
    token.opens = false := by
  cases token <;> first | rfl | cases found

/-! ## Phrases -/

theorem Derives.balanced {phrase : Phrase} {tokens : List Token} {nesting : Nat}
    (derives : Derives phrase tokens nesting) : Balanced tokens := by
  induction derives with
  | literal found => exact .cons (opens_of_literal? found) (closes_of_literal? found) .nil
  | reference name => exact .cons rfl rfl .nil
  | call _ inside => exact .cons rfl rfl (.brackets rfl ⟨rfl, rfl⟩ inside)
  | group _ inside | list _ inside | map _ inside => exact .brackets rfl ⟨rfl, rfl⟩ inside
  | member name _ before => exact before.append (.cons rfl rfl (.cons rfl rfl .nil))
  | method _ _ _ before inside =>
      exact before.append (.cons rfl rfl (.cons rfl rfl (.brackets rfl ⟨rfl, rfl⟩ inside)))
  | quantified _ _ _ _ before inside =>
      exact before.append <| .cons rfl rfl <| .cons rfl rfl <|
        .brackets rfl ⟨rfl, rfl⟩ (.cons rfl rfl (.cons rfl rfl inside))
  | index _ _ before inside => exact before.append (.brackets rfl ⟨rfl, rfl⟩ inside)
  | unary isOp _ balanced =>
      exact .cons (opens_of_unaryOperator? isOp) (closes_of_unaryOperator? isOp) balanced
  | binary isOp _ _ before after =>
      exact before.append (.cons (opens_of_operator? isOp).1 (opens_of_operator? isOp).2 after)
  | conditional _ _ _ before between after =>
      exact before.append (.cons rfl rfl (between.append (.cons rfl rfl after)))
  | moreItems _ _ before after | lastPair _ _ before after =>
      exact before.append (.cons rfl rfl after)
  | morePairs _ _ _ before between after =>
      exact before.append (.cons rfl rfl (between.append (.cons rfl rfl after)))
  | noArguments | noEntries => exact .nil
  | bare _ balanced | plain _ balanced | factor _ balanced | tighter _ _ balanced
  | first _ balanced | unconditional _ balanced | lastItem _ balanced
  | someArguments _ balanced | someEntries _ balanced => exact balanced

/-! ## Operators of logic -/

def Token.Looser (rank : Nat) (token : Token) : Prop :=
  rank < token.rank ∧ 4 < token.rank ∧ token.rank < 8

instance (rank : Nat) (token : Token) : Decidable (token.Looser rank) :=
  inferInstanceAs (Decidable (rank < token.rank ∧ 4 < token.rank ∧ token.rank < 8))

/-- No operator of logic outside the brackets is looser than the rank. -/
def Ties (rank : Nat) (tokens : List Token) : Prop :=
  ∀ token ∈ outside tokens, ¬token.Looser rank

theorem Ties.mono {rank looser : Nat} {tokens : List Token} (ties : Ties rank tokens)
    (le : rank ≤ looser) : Ties looser tokens := by
  intro token member isLooser
  exact ties token member ⟨Nat.lt_of_le_of_lt le isLooser.1, isLooser.2⟩

theorem ties_of_le {rank : Nat} (loosest : 7 ≤ rank) (tokens : List Token) : Ties rank tokens := by
  rintro token - ⟨looser, -, logical⟩
  omega

theorem Ties.append {rank : Nat} {before after : List Token} (balanced : Balanced before)
    (first : Ties rank before) (second : Ties rank after) : Ties rank (before ++ after) := by
  intro token member
  rw [balanced.outer, List.mem_append] at member
  rcases member with member | member
  · exact first token member
  · exact second token member

theorem Ties.cons {rank : Nat} {token : Token} {tokens : List Token}
    (brackets : token.opens = false ∧ token.closes = false) (tight : ¬token.Looser rank)
    (ties : Ties rank tokens) : Ties rank (token :: tokens) := by
  intro other member
  rw [outside_cons brackets.1 brackets.2, List.mem_cons] at member
  rcases member with rfl | member
  · exact tight
  · exact ties other member

theorem ties_brackets {rank : Nat} {opener closer : Token} {inside : List Token}
    (opens : opener.opens = true) (isCloser : closer.opens = false ∧ closer.closes = true)
    (balanced : Balanced inside) : Ties rank (opener :: (inside ++ [closer])) := by
  intro token member
  rw [outside_brackets opens isCloser balanced] at member
  cases member

theorem ties_nil (rank : Nat) : Ties rank [] := by
  intro token member
  cases member

theorem rank_of_literal? {token : Token} {expr : Expr} (found : token.literal? = some expr) :
    token.rank = 8 := by
  cases token <;> first | rfl | cases found

theorem rank_of_unaryOperator? {token : Token} {op : UnaryOp}
    (isOp : unaryOperator? token = some op) : token.rank = 3 ∨ token.rank = 8 := by
  cases token <;> first | exact .inl rfl | exact .inr rfl | cases isOp

theorem not_looser_of_rank {token : Token} (noLogic : token.rank ≤ 4 ∨ token.rank = 8)
    (rank : Nat) : ¬token.Looser rank := by
  rintro ⟨-, operator, logical⟩
  omega

theorem not_looser_word (name : String) (rank : Nat) : ¬(Token.word name).Looser rank :=
  not_looser_of_rank (.inr rfl) rank

theorem not_looser_dot (rank : Nat) : ¬Token.dot.Looser rank :=
  not_looser_of_rank (.inl (by decide)) rank

theorem Derives.ties {phrase : Phrase} {tokens : List Token} {nesting : Nat}
    (derives : Derives phrase tokens nesting) : Ties phrase.rank tokens := by
  induction derives with
  | literal found =>
      exact .cons ⟨opens_of_literal? found, closes_of_literal? found⟩
        (not_looser_of_rank (.inr (rank_of_literal? found)) _) (ties_nil _)
  | reference name => exact .cons ⟨rfl, rfl⟩ (not_looser_word name _) (ties_nil _)
  | call inside _ =>
      exact .cons ⟨rfl, rfl⟩ (not_looser_word _ _) (ties_brackets rfl ⟨rfl, rfl⟩ inside.balanced)
  | group inside _ | list inside _ | map inside _ =>
      exact ties_brackets rfl ⟨rfl, rfl⟩ inside.balanced
  | member name target before =>
      exact .append target.balanced before <| .cons ⟨rfl, rfl⟩ (not_looser_dot _) <|
        .cons ⟨rfl, rfl⟩ (not_looser_word name _) (ties_nil _)
  | method _ target inside before _ =>
      exact .append target.balanced before <| .cons ⟨rfl, rfl⟩ (not_looser_dot _) <|
        .cons ⟨rfl, rfl⟩ (not_looser_word _ _) (ties_brackets rfl ⟨rfl, rfl⟩ inside.balanced)
  | quantified _ _ target inside before _ =>
      exact .append target.balanced before <| .cons ⟨rfl, rfl⟩ (not_looser_dot _) <|
        .cons ⟨rfl, rfl⟩ (not_looser_word _ _) <|
          ties_brackets rfl ⟨rfl, rfl⟩ (.cons rfl rfl (.cons rfl rfl inside.balanced))
  | index target inside before _ =>
      exact .append target.balanced before (ties_brackets rfl ⟨rfl, rfl⟩ inside.balanced)
  | unary isOp _ operand =>
      exact .cons ⟨opens_of_unaryOperator? isOp, closes_of_unaryOperator? isOp⟩
        (not_looser_of_rank (by have rank := rank_of_unaryOperator? isOp; omega) _) operand
  | bare _ primary => exact primary.mono (Nat.zero_le 1)
  | plain _ ties | factor _ ties => exact ties
  | tighter isTighter _ chain =>
      exact chain.mono (by simp [Phrase.rank, Level.rank_of_tighter isTighter])
  | first _ operand => exact operand.mono (Nat.sub_le _ _)
  | binary isOp chain _ before after =>
      refine .append chain.balanced before (.cons (opens_of_operator? isOp) ?_ ?_)
      · rintro ⟨looser, -⟩
        rw [Level.rank_of_operator? isOp] at looser
        exact Nat.lt_irrefl _ looser
      · exact after.mono (Nat.sub_le _ _)
  | unconditional | conditional => exact ties_of_le (Nat.le_refl 7) _
  | lastItem | moreItems | noArguments | someArguments | lastPair | morePairs | noEntries
  | someEntries => exact ties_of_le (by decide : 7 ≤ 8) _

theorem Ties.not_mem {rank : Nat} {token : Token} {tokens : List Token} (ties : Ties rank tokens)
    (looser : token.Looser rank) : token ∉ outside tokens :=
  fun member => ties token member looser

theorem eq_andAnd {token : Token} {op : BinaryOp}
    (isOp : Level.conjunction.operator? token = some op) : token = .andAnd ∧ op = .and := by
  cases token <;> cases isOp
  exact ⟨rfl, rfl⟩

theorem eq_orOr {token : Token} {op : BinaryOp}
    (isOp : Level.disjunction.operator? token = some op) : token = .orOr := by
  cases token <;> cases isOp
  rfl

theorem Derives.count_conjunction {length : Nat} {expr : Expr} {tokens : List Token}
    {nesting : Nat} (derives : Derives (.chain .conjunction length expr) tokens nesting) :
    (outside tokens).count .andAnd = length := by
  have looser : Token.andAnd.Looser 4 := by decide
  have none {operand : Expr} {tokens : List Token} {nesting : Nat}
      (derives : Derives (.operand .conjunction operand) tokens nesting) :
      (outside tokens).count .andAnd = 0 :=
    List.count_eq_zero.mpr (derives.ties.not_mem looser)
  induction length generalizing expr tokens nesting with
  | zero =>
      cases derives with
      | first operand => exact none operand
  | succ length induction =>
      cases derives with
      | binary isOp chain operand =>
          rcases eq_andAnd isOp with ⟨rfl, rfl⟩
          rw [chain.balanced.outer, outside_cons rfl rfl, List.count_append, induction chain,
            List.count_cons_self, none operand]

theorem Derives.conjunction_of_expression {expr : Expr} {tokens : List Token} {nesting : Nat}
    (derives : Derives (.expression expr) tokens nesting) (noOr : .orOr ∉ outside tokens)
    (noQuestion : .question ∉ outside tokens) :
    ∃ length within, nesting = within + 1 ∧
      Derives (.chain .conjunction length expr) tokens within := by
  cases derives with
  | unconditional chain =>
      cases chain with
      | first operand =>
          cases operand with
          | tighter isTighter chain =>
              cases isTighter
              exact ⟨_, _, rfl, chain⟩
      | binary isOp chain operand =>
          cases eq_orOr isOp
          rw [chain.balanced.outer, outside_cons rfl rfl] at noOr
          exact absurd (by simp) noOr
  | conditional condition whenTrue whenFalse =>
      rw [condition.balanced.outer, outside_cons rfl rfl] at noQuestion
      exact absurd (by simp) noQuestion

end LiterateTest.Expression
