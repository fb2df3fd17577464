import LiterateTest.Proofs.Expression.Acceptance
import LiterateTest.Proofs.Expression.Conjunction
import Mathlib.Tactic.Ring

/-! How high an expression can be. The nesting is counted on the way to a part of an expression,
but no longer when an operator, a selection or a branch follows the part, although the whole then
stands above it. -/

namespace LiterateTest

namespace Expr

theorem height_pos (expr : Expr) : 0 < expr.height := by
  cases expr <;> simp only [height] <;> omega

mutual
/-- The greatest number of steps, on a path into an expression, to a part that is followed by what
it is a part of: an operand before an operator, the target of a selection, a subscript or a method,
a condition, or the branch behind it. -/
def leftSteps : Expr → Nat
  | literal _ => 0
  | reference _ => 0
  | list items => itemsLeftSteps items
  | map entries => entriesLeftSteps entries
  | member target _ => target.leftSteps + 1
  | index target key => max (target.leftSteps + 1) key.leftSteps
  | call _ arguments => itemsLeftSteps arguments
  | method target _ arguments => max (target.leftSteps + 1) (itemsLeftSteps arguments)
  | quantified target _ _ body => max (target.leftSteps + 1) body.leftSteps
  | unary _ operand => operand.leftSteps
  | binary _ left right => max (left.leftSteps + 1) right.leftSteps
  | conditional condition whenTrue whenFalse =>
      max (max condition.leftSteps whenTrue.leftSteps + 1) whenFalse.leftSteps

def itemsLeftSteps : List Expr → Nat
  | [] => 0
  | item :: rest => max item.leftSteps (itemsLeftSteps rest)

def entriesLeftSteps : List (Expr × Expr) → Nat
  | [] => 0
  | (key, value) :: rest => max (max key.leftSteps value.leftSteps) (entriesLeftSteps rest)
end

end Expr

end LiterateTest

namespace LiterateTest.Expression

namespace Phrase

def height : Phrase → Nat
  | primary expr | postfixed _ expr | unary expr | operand _ expr | chain _ _ expr
  | expression expr => expr.height
  | items list | arguments list => Expr.itemsHeight list
  | pairs list | entries list => Expr.entriesHeight list

def leftSteps : Phrase → Nat
  | primary expr | postfixed _ expr | unary expr | operand _ expr | chain _ _ expr
  | expression expr => expr.leftSteps
  | items list | arguments list => Expr.itemsLeftSteps list
  | pairs list | entries list => Expr.entriesLeftSteps list

end Phrase

theorem height_of_literal? {token : Token} {expr : Expr} (found : token.literal? = some expr) :
    expr.height = 1 := by
  cases token with
  | float value =>
      rcases Option.map_eq_some_iff.mp found with ⟨number, -, rfl⟩
      rfl
  | _ =>
      cases found
      try rfl

/-! ## Heights and tokens -/

/-- Each expression has a token of its own. One that is as high as it has tokens consists of signs
before a name or a literal, and each of them is counted as nesting. -/
theorem Derives.height_le_length {phrase : Phrase} {tokens : List Token} {nesting : Nat}
    (derives : Derives phrase tokens nesting) :
    phrase.height + 1 ≤ tokens.length ∨ phrase.height ≤ nesting + phrase.spare := by
  induction derives with
  | literal found =>
      right
      rw [Phrase.height, height_of_literal? found]
      exact Nat.le_refl _
  | reference | noArguments | noEntries => exact .inr (Nat.le_refl _)
  | bare _ inside | first _ inside | plain _ inside | factor _ inside | tighter _ _ inside
  | someArguments _ inside | someEntries _ inside => exact inside
  | unconditional _ inside =>
      simp only [Phrase.height, Phrase.spare] at inside ⊢
      omega
  | unary _ _ inside | lastItem _ inside | group _ inside | call _ inside | list _ inside
  | map _ inside =>
      simp only [Phrase.height, Phrase.spare, Expr.height, Expr.itemsHeight, List.length_cons,
        List.length_append, List.length_nil] at inside ⊢
      omega
  | member _ target inside =>
      have short := target.length_le
      simp only [Phrase.height, Phrase.spare, Expr.height, List.length_cons, List.length_append,
        List.length_nil] at short inside ⊢
      omega
  | method _ first second before inside | quantified _ _ first second before inside
  | index first second before inside | binary _ first second before inside
  | moreItems first second before inside | lastPair first second before inside =>
      have short := first.length_le
      have shortInside := second.length_le
      simp only [Phrase.height, Phrase.spare, Expr.height, Expr.itemsHeight, Expr.entriesHeight,
        List.length_cons, List.length_append, List.length_nil] at short shortInside before inside ⊢
      omega
  | conditional condition whenTrue whenFalse first second third
  | morePairs condition whenTrue whenFalse first second third =>
      have short := condition.length_le
      have shortTrue := whenTrue.length_le
      have shortFalse := whenFalse.length_le
      simp only [Phrase.height, Phrase.spare, Expr.height, Expr.entriesHeight, List.length_cons,
        List.length_append] at *
      omega

/-! ## Heights and nesting -/

theorem Derives.height_le_leftSteps {phrase : Phrase} {tokens : List Token} {nesting : Nat}
    (derives : Derives phrase tokens nesting) :
    phrase.height ≤ nesting + phrase.spare + phrase.leftSteps := by
  induction derives with
  | literal found =>
      rw [Phrase.height, height_of_literal? found, Phrase.spare]
      omega
  | reference | noArguments | noEntries => exact Nat.le_refl _
  | bare _ inside | first _ inside | plain _ inside | factor _ inside | tighter _ _ inside
  | someArguments _ inside | someEntries _ inside => exact inside
  | group _ inside | call _ inside | list _ inside | map _ inside | unary _ _ inside
  | unconditional _ inside | lastItem _ inside | member _ _ inside =>
      simp only [Phrase.height, Phrase.spare, Phrase.leftSteps, Expr.height, Expr.itemsHeight,
        Expr.leftSteps, Expr.itemsLeftSteps] at inside ⊢
      omega
  | method _ _ _ before inside | quantified _ _ _ _ before inside | index _ _ before inside
  | binary _ _ _ before inside | moreItems _ _ before inside | lastPair _ _ before inside =>
      simp only [Phrase.height, Phrase.spare, Phrase.leftSteps, Expr.height, Expr.itemsHeight,
        Expr.entriesHeight, Expr.leftSteps, Expr.itemsLeftSteps,
        Expr.entriesLeftSteps] at before inside ⊢
      omega
  | conditional _ _ _ first second third | morePairs _ _ _ first second third =>
      simp only [Phrase.height, Phrase.spare, Phrase.leftSteps, Expr.height, Expr.entriesHeight,
        Expr.leftSteps, Expr.entriesLeftSteps] at first second third ⊢
      omega

/-- The greatest height of an expression for which so much nesting is allowed. A list takes one
more than its item, and behind it come as many selections, and as many operators of each of the
five levels, as there is nesting. A conditional around all of that takes one more. -/
def peak : (nesting : Nat) → Nat
  | 0 => 0
  | 1 => 1
  | nesting + 2 => peak (nesting + 1) + 6 * (nesting + 1) + 2

theorem peak_succ {nesting : Nat} (positive : 0 < nesting) :
    peak (nesting + 1) = peak nesting + 6 * nesting + 2 := by
  cases nesting with
  | zero => cases positive
  | succ nesting => rfl

theorem le_peak_succ (nesting : Nat) : peak nesting + 6 * nesting + 1 ≤ peak (nesting + 1) := by
  cases nesting with
  | zero => exact Nat.le_refl 1
  | succ nesting =>
      rw [peak]
      omega

theorem peak_eq {nesting : Nat} (positive : 0 < nesting) :
    peak nesting = 3 * nesting ^ 2 - nesting - 1 := by
  have closed : peak nesting + nesting + 1 = 3 * nesting ^ 2 := by
    induction nesting, positive using Nat.le_induction with
    | base => rfl
    | succ nesting positive induction =>
        rw [peak_succ positive]
        ring_nf at induction ⊢
        omega
  omega

theorem Derives.links_le {phrase : Phrase} {tokens : List Token} {nesting : Nat}
    (derives : Derives phrase tokens nesting) : phrase.links ≤ nesting := by
  cases derives with
  | member | method | quantified | index | binary =>
      simp only [Phrase.links]
      omega
  | _ => exact Nat.zero_le _

theorem Derives.nesting_pos {expr : Expr} {tokens : List Token} {nesting : Nat}
    (derives : Derives (.expression expr) tokens nesting) : 0 < nesting := by
  cases derives <;> exact Nat.succ_pos _

def Phrase.peak (nesting : Nat) : Phrase → Nat
  | primary _ => Expression.peak nesting + 1
  | postfixed length _ => Expression.peak nesting + 1 + length
  | unary _ => Expression.peak nesting + 1 + nesting
  | operand level _ => Expression.peak nesting + 1 + (level.rank - 1) * nesting
  | chain level length _ => Expression.peak nesting + 1 + (level.rank - 1) * nesting + length
  | expression _ | items _ | arguments _ | pairs _ | entries _ => Expression.peak nesting

theorem Level.rank_sub_one_mul {level tighter : Level}
    (isTighter : level.tighter? = some tighter) (nesting : Nat) :
    (level.rank - 1) * nesting = (tighter.rank - 1) * nesting + nesting := by
  cases level <;> cases isTighter <;> simp only [Level.rank] <;> omega

theorem Derives.height_le_peak {phrase : Phrase} {tokens : List Token} {nesting : Nat}
    (derives : Derives phrase tokens nesting) (budget : Nat) (fits : nesting ≤ budget) :
    phrase.height ≤ phrase.peak budget := by
  induction derives generalizing budget with
  | literal found =>
      rw [Phrase.height, height_of_literal? found, Phrase.peak]
      exact Nat.le_add_left 1 _
  | reference => exact Nat.le_add_left 1 _
  | call _ inside | list _ inside | map _ inside => exact Nat.succ_le_succ (inside budget fits)
  | group _ inside => exact Nat.le_succ_of_le (inside budget fits)
  | bare _ inside | first _ inside | someArguments _ inside | someEntries _ inside =>
      exact inside budget fits
  | factor _ inside =>
      have inside := inside budget fits
      simp only [Phrase.height, Phrase.peak, Level.rank] at inside ⊢
      omega
  | lastItem _ inside =>
      have inside := inside budget fits
      simp only [Phrase.height, Phrase.peak, Expr.itemsHeight] at inside ⊢
      omega
  | member _ _ target =>
      have target := target budget (by omega)
      simp only [Phrase.height, Phrase.peak, Expr.height] at target ⊢
      omega
  | method _ _ _ target inside | quantified _ _ _ _ target inside | index _ _ target inside =>
      have target := target budget (by omega)
      have inside := inside budget (by omega)
      simp only [Phrase.height, Phrase.peak, Expr.height] at target inside ⊢
      omega
  | plain derives inside =>
      have links := derives.links_le
      have inside := inside budget fits
      simp only [Phrase.height, Phrase.peak, Phrase.links] at links inside ⊢
      omega
  | unary _ _ operand =>
      cases budget with
      | zero => omega
      | succ budget =>
          have operand := operand budget (Nat.le_of_succ_le_succ fits)
          have step := le_peak_succ budget
          simp only [Phrase.height, Phrase.peak, Expr.height] at operand ⊢
          omega
  | tighter isTighter derives chain =>
      have links := derives.links_le
      have chain := chain budget fits
      have rank := Level.rank_sub_one_mul isTighter budget
      simp only [Phrase.height, Phrase.peak, Phrase.links] at links chain ⊢
      omega
  | binary _ _ _ left right =>
      have left := left budget (by omega)
      have right := right budget (by omega)
      simp only [Phrase.height, Phrase.peak, Expr.height] at left right ⊢
      omega
  | unconditional derives chain =>
      cases budget with
      | zero => omega
      | succ budget =>
          have links := derives.links_le
          have chain := chain budget (Nat.le_of_succ_le_succ fits)
          have step := le_peak_succ budget
          simp only [Phrase.height, Phrase.peak, Phrase.links, Level.rank] at links chain ⊢
          omega
  | conditional condition whenTrue expression first second third =>
      have positive := expression.nesting_pos
      have conditionLinks := condition.links_le
      have trueLinks := whenTrue.links_le
      cases budget with
      | zero => omega
      | succ budget =>
          have first := first budget (by omega)
          have second := second budget (by omega)
          have third := third budget (by omega)
          have step : peak (budget + 1) = peak budget + 6 * budget + 2 := peak_succ (by omega)
          simp only [Phrase.height, Phrase.peak, Phrase.links, Level.rank, Expr.height] at *
          omega
  | moreItems _ _ first others =>
      have first := first budget (by omega)
      have others := others budget (by omega)
      simp only [Phrase.height, Phrase.peak, Expr.itemsHeight] at first others ⊢
      omega
  | lastPair _ _ key value =>
      have key := key budget (by omega)
      have value := value budget (by omega)
      simp only [Phrase.height, Phrase.peak, Expr.entriesHeight] at key value ⊢
      omega
  | morePairs _ _ _ key value others =>
      have key := key budget (by omega)
      have value := value budget (by omega)
      have others := others budget (by omega)
      simp only [Phrase.height, Phrase.peak, Expr.entriesHeight] at key value others ⊢
      omega
  | noArguments | noEntries => exact Nat.zero_le _

/-! ## Signs -/

theorem derives_name (level : Level) :
    Derives (.operand level (.reference "a")) [.word "a"] 0 :=
  (Derives.plain (.bare (.reference "a"))).operand level

def negated : (count : Nat) → Expr
  | 0 => .reference "a"
  | count + 1 => .unary .neg (negated count)

theorem height_negated (count : Nat) : (negated count).height = count + 1 := by
  induction count with
  | zero => rfl
  | succ count induction => rw [negated, Expr.height, induction]

theorem derives_negated (count : Nat) :
    Derives (.unary (negated count)) (List.replicate count .minus ++ [.word "a"]) count := by
  induction count with
  | zero => exact .plain (.bare (.reference "a"))
  | succ count induction => exact .unary rfl induction

theorem lexToken_minus (rest : List Char) : lexToken '-' rest = .ok (.minus, 0) :=
  lexOperator_single rfl (by simp [operatorPair?]) rest

theorem HasTokens.negated {text : List Char} {tokens : List Token}
    (hasTokens : HasTokens text tokens) (count : Nat) :
    HasTokens (List.replicate count '-' ++ text) (List.replicate count .minus ++ tokens) := by
  induction count with
  | zero => exact hasTokens
  | succ count induction =>
      intro offset
      rcases induction (offset + 1) with ⟨lexemes, found, same⟩
      refine ⟨⟨.minus, offset⟩ :: lexemes, ?_, ?_⟩
      · rw [List.replicate_succ, List.cons_append, scan, if_neg (by decide), lexToken_minus]
        dsimp only
        rw [show offset + '-'.utf8Size = offset + 1 from rfl, found]
        rfl
      · rw [List.map_cons, same]
        rfl

/-! ## Sources -/

theorem parse_of_derives {expr : Expr} {text : List Char} {tokens : List Token} {nesting : Nat}
    (derives : Derives (.expression expr) tokens nesting) (fits : nesting ≤ maxDepth)
    (hasTokens : HasTokens text tokens) : parse (String.ofList text) = .ok expr := by
  rcases hasTokens 0 with ⟨lexemes, scanned, rfl⟩
  rw [parse_ofList, scanned]
  simp only [(parseLexemes_of_derives derives).1 fits]

theorem derives_of_parse {source : String} {expr : Expr} (ok : parse source = .ok expr) :
    ∃ lexemes nesting, tokenize source = .ok lexemes ∧ nesting ≤ maxDepth ∧
      Derives (.expression expr) (lexemes.map Lexeme.token) nesting := by
  rw [← String.ofList_toList (s := source), parse_ofList] at ok
  split at ok
  · cases ok
  · next lexemes scanned =>
      split at ok
      · next read =>
          cases ok
          rcases derives_of_parseLexemes read with ⟨nesting, fits, derives⟩
          exact ⟨lexemes, nesting, scanned, fits, derives⟩
      · cases ok

/-- What is accepted is no higher than the limit if its tokens are no more than that and one, or if
no part is followed by another one. Each step to such a part can add one to the height, until the
peak is reached. -/
theorem height_le_of_parse {source : String} {expr : Expr} (ok : parse source = .ok expr) :
    ∃ lexemes, tokenize source = .ok lexemes ∧
      (lexemes.length ≤ maxDepth + 1 → expr.height ≤ maxDepth) ∧
      expr.height ≤ maxDepth + expr.leftSteps ∧
      expr.height ≤ 3 * maxDepth ^ 2 - maxDepth - 1 := by
  rcases derives_of_parse ok with ⟨lexemes, nesting, lexed, fits, derives⟩
  have tokens := derives.height_le_length
  have steps := derives.height_le_leftSteps
  have highest := derives.height_le_peak maxDepth fits
  have positive : 0 < maxDepth := by decide
  rw [Phrase.height, Phrase.peak, peak_eq positive] at highest
  simp only [Phrase.height, Phrase.spare, Phrase.leftSteps, List.length_map] at tokens steps
  refine ⟨lexemes, lexed, ?_, ?_, highest⟩
  · omega
  · omega

theorem height_le_of_parse_of_sum :
    ∃ lexemes expr, tokenize "-a + b.c" = .ok lexemes ∧ parse "-a + b.c" = .ok expr ∧
      lexemes.length ≤ maxDepth + 1 ∧ expr.height ≤ maxDepth := by
  let expr : Expr := .binary .add (.unary .neg (.reference "a")) (.member (.reference "b") "c")
  have ok : parse "-a + b.c" = .ok expr := rfl
  rcases height_le_of_parse ok with ⟨lexemes, lexed, bound, -, -⟩
  have short : lexemes.length ≤ maxDepth + 1 := by
    cases lexed
    decide
  exact ⟨lexemes, expr, lexed, ok, short, bound short⟩

/-- The nesting of an operand is no longer counted when an operator follows it, but the operator
stands above all of it. -/
theorem height_of_signs :
    ∃ expr, parse (String.ofList (List.replicate 255 '-' ++ "a + a".toList)) = .ok expr ∧
      expr.height = maxDepth + 1 := by
  have name : HasTokens "a + a".toList [.word "a", .plus, .word "a"] := fun offset =>
    ⟨[⟨.word "a", offset⟩, ⟨.plus, _⟩, ⟨.word "a", _⟩], rfl, rfl⟩
  have operand : Derives (.operand .sum (negated 255))
      (List.replicate 255 .minus ++ [.word "a"]) 255 :=
    .tighter rfl (.first (.factor (derives_negated 255)))
  have sum : Derives (.chain .sum 1 (.binary .add (negated 255) (.reference "a")))
      (List.replicate 255 .minus ++ [.word "a"] ++ [.plus, .word "a"]) 255 :=
    operand.first.binary rfl (derives_name .sum)
  have relation : Derives (.operand .conjunction _) _ 255 :=
    .tighter rfl (.first (.tighter rfl sum))
  have expression : Derives (.expression _) _ maxDepth :=
    .unconditional (.first (.tighter rfl (.first relation)))
  refine ⟨_, parse_of_derives expression (Nat.le_refl _) ?_, ?_⟩
  · rw [List.append_assoc]
    exact name.negated 255
  · rw [Expr.height, height_negated]
    rfl

end LiterateTest.Expression
