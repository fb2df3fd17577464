import LiterateTest.Proofs.Expression.Completeness
import LiterateTest.Proofs.Expression.Soundness

/-! The reader accepts what the grammar derives, and nothing else, as far as the nesting is
allowed. Each level of nesting takes a token, so that short texts are never nested too deeply. -/

namespace LiterateTest.Expression

/-! ## Nesting and length -/

namespace Phrase

def links : Phrase → Nat
  | postfixed length _ | chain _ length _ => length
  | _ => 0

/-- The tokens of a phrase that never open a level of nesting: one, unless the phrase is a whole
expression or consists of such. -/
def spare : Phrase → Nat
  | primary _ | postfixed _ _ | unary _ | operand _ _ | chain _ _ _ => 1
  | _ => 0

end Phrase

theorem Derives.length_le {phrase : Phrase} {tokens : List Token} {nesting : Nat}
    (derives : Derives phrase tokens nesting) :
    nesting + phrase.spare ≤ tokens.length ∧ phrase.links + phrase.spare ≤ tokens.length := by
  induction derives with
  | literal | reference | noArguments | noEntries => exact ⟨Nat.le_refl _, Nat.le_refl _⟩
  | bare _ inside | plain _ inside | unary _ _ inside | factor _ inside | tighter _ _ inside
  | first _ inside | unconditional _ inside | lastItem _ inside | someArguments _ inside
  | someEntries _ inside | call _ inside | group _ inside | list _ inside | map _ inside
  | member _ _ inside =>
      simp only [Phrase.spare, Phrase.links, List.length_cons, List.length_append,
        List.length_nil] at inside ⊢
      omega
  | method _ _ _ before inside | quantified _ _ _ _ before inside | index _ _ before inside
  | binary _ _ _ before inside | moreItems _ _ before inside | lastPair _ _ before inside =>
      simp only [Phrase.spare, Phrase.links, List.length_cons, List.length_append,
        List.length_nil] at before inside ⊢
      omega
  | conditional _ _ _ first second third | morePairs _ _ _ first second third =>
      simp only [Phrase.spare, Phrase.links, List.length_cons, List.length_append] at *
      omega

/-! ## Uniqueness -/

theorem Derives.unique {left right : Expr} {tokens : List Token} {nesting other : Nat}
    (first : Derives (.expression left) tokens nesting)
    (second : Derives (.expression right) tokens other) : left = right := by
  let limit := max nesting other
  let lexemes := tokens.map fun token => (⟨token, 0⟩ : Lexeme)
  have spell : Spell tokens lexemes := by
    simp [Spell, lexemes, Function.comp_def]
  have readLeft := (first.complete limit limit lexemes [] (Nat.le_refl _) spell (follows_nil 7)).1
    (Nat.le_max_left _ _)
  have readRight := (second.complete limit limit lexemes [] (Nat.le_refl _) spell (follows_nil 7)).1
    (Nat.le_max_right _ _)
  rw [readLeft] at readRight
  cases readRight
  rfl

/-! ## Whole expressions -/

/-- The tokens are derived as an expression, however deep it is nested. -/
def StandFor (tokens : List Token) (expr : Expr) : Prop :=
  ∃ nesting, Derives (.expression expr) tokens nesting

theorem StandFor.unique {tokens : List Token} {left right : Expr} (first : StandFor tokens left)
    (second : StandFor tokens right) : left = right := by
  rcases first with ⟨nesting, first⟩
  rcases second with ⟨other, second⟩
  exact first.unique second

end LiterateTest.Expression
