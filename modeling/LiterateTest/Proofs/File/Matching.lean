import LiterateTest.File.Glob
import Mathlib.Data.List.Infix

/-! Which names a pattern stands for. A name is matched by keeping all ends of it that may be left
over; behind a `*`, the ends of the longest of these are those of all of them. -/

namespace LiterateTest.Glob

def IsAny (token : GlobToken) : Prop := token = .anyText ∨ token = .anyDirectories

inductive Leaves : GlobToken → List Char → List Char → Prop
  | single {token : GlobToken} {c : Char} {rest : List Char} (accepted : accepts token c = true) :
      Leaves token (c :: rest) rest
  | any {token : GlobToken} {text rest : List Char} (isAny : IsAny token) (atEnd : rest <:+ text) :
      Leaves token text rest

inductive Matches : List GlobToken → List Char → Prop
  | done : Matches [] []
  | next {token : GlobToken} {tokens : List GlobToken} {text rest : List Char}
      (leaves : Leaves token text rest) (others : Matches tokens rest) :
      Matches (token :: tokens) text

/-! ## One token -/

section

variable {token : GlobToken}

theorem advance_of_isAny (isAny : IsAny token) (longest : List Char) (rests : List (List Char)) :
    advance (longest :: rests) token = tails longest := by
  rcases isAny with rfl | rfl <;> rfl

def single? (token : GlobToken) : List Char → Option (List Char)
  | [] => none
  | c :: others => if accepts token c then some others else none

theorem single?_eq_some_iff {text rest : List Char} :
    single? token text = some rest ↔ ∃ c, text = c :: rest ∧ accepts token c = true := by
  cases text with
  | nil => simp [single?]
  | cons c others => simp [single?, and_comm]

theorem advance_of_not_isAny (notAny : ¬IsAny token) (rests : List (List Char)) :
    advance rests token = rests.filterMap (single? token) := by
  cases token with
  | anyText => exact absurd (.inl rfl) notAny
  | anyDirectories => exact absurd (.inr rfl) notAny
  | _ => rfl

theorem tails_eq (text : List Char) : tails text = text.tails := by
  induction text with
  | nil => rfl
  | cons c rest induction => rw [tails, induction, List.tails]

/-- Whether each text holds those behind it at its end. -/
def Shrinking (rests : List (List Char)) : Prop :=
  rests.Pairwise fun longer shorter => shorter <:+ longer

theorem shrinking_tails (text : List Char) : Shrinking (tails text) := by
  induction text with
  | nil => exact List.pairwise_singleton _ _
  | cons c rest induction =>
      refine List.pairwise_cons.mpr ⟨fun shorter member => ?_, induction⟩
      rw [tails_eq, List.mem_tails] at member
      exact member.trans (List.suffix_cons c rest)

theorem Shrinking.advance {rests : List (List Char)} (shrinking : Shrinking rests) :
    Shrinking (advance rests token) := by
  by_cases isAny : IsAny token
  · cases rests with
    | nil =>
        rcases isAny with rfl | rfl <;> exact .nil
    | cons longest rests =>
        rw [advance_of_isAny isAny]
        exact shrinking_tails longest
  · rw [advance_of_not_isAny isAny]
    refine List.pairwise_filterMap.mpr (shrinking.imp ?_)
    intro longer shorter atEnd left isLeft right isRight
    rcases single?_eq_some_iff.mp isLeft with ⟨c, rfl, -⟩
    rcases single?_eq_some_iff.mp isRight with ⟨d, rfl, -⟩
    rcases List.suffix_cons_iff.mp atEnd with same | inside
    · cases same
      exact List.suffix_rfl
    · exact (List.suffix_cons d _).trans inside

theorem mem_advance_iff {rests : List (List Char)} (shrinking : Shrinking rests)
    {rest : List Char} :
    rest ∈ Glob.advance rests token ↔ ∃ text ∈ rests, Leaves token text rest := by
  by_cases isAny : IsAny token
  · cases rests with
    | nil => rcases isAny with rfl | rfl <;> simp [Glob.advance]
    | cons longest rests =>
        rw [advance_of_isAny isAny, tails_eq, List.mem_tails]
        constructor
        · exact fun atEnd => ⟨longest, List.mem_cons_self, .any isAny atEnd⟩
        · rintro ⟨text, member, leaves⟩
          have inside : text <:+ longest := by
            rcases List.mem_cons.mp member with rfl | member
            · exact List.suffix_rfl
            · exact List.rel_of_pairwise_cons shrinking member
          cases leaves with
          | single accepted => exact (List.suffix_cons _ _).trans inside
          | any _ atEnd => exact atEnd.trans inside
  · rw [advance_of_not_isAny isAny, List.mem_filterMap]
    constructor
    · rintro ⟨text, member, isRest⟩
      rcases single?_eq_some_iff.mp isRest with ⟨c, rfl, accepted⟩
      exact ⟨_, member, .single accepted⟩
    · rintro ⟨text, member, leaves⟩
      cases leaves with
      | single accepted => exact ⟨_, member, single?_eq_some_iff.mpr ⟨_, rfl, accepted⟩⟩
      | any wrong _ => exact absurd wrong isAny

end

/-! ## Whole patterns -/

theorem any_foldl_advance_iff {tokens : List GlobToken} {rests : List (List Char)}
    (shrinking : Shrinking rests) :
    (tokens.foldl advance rests).any List.isEmpty = true ↔ ∃ text ∈ rests, Matches tokens text := by
  induction tokens generalizing rests with
  | nil =>
      rw [List.foldl_nil, List.any_eq_true]
      constructor
      · rintro ⟨text, member, empty⟩
        cases List.isEmpty_iff.mp empty
        exact ⟨[], member, .done⟩
      · rintro ⟨text, member, matched⟩
        cases matched
        exact ⟨[], member, rfl⟩
  | cons token tokens induction =>
      rw [List.foldl_cons, induction shrinking.advance]
      constructor
      · rintro ⟨rest, member, others⟩
        rcases (mem_advance_iff shrinking).mp member with ⟨text, isText, leaves⟩
        exact ⟨text, isText, .next leaves others⟩
      · rintro ⟨text, isText, matched⟩
        cases matched with
        | @next _ _ _ rest leaves others =>
            exact ⟨rest, (mem_advance_iff shrinking).mpr ⟨text, isText, leaves⟩, others⟩

theorem isMatch_iff {tokens : List GlobToken} {text : List Char} :
    isMatch tokens text = true ↔ Matches tokens text := by
  rw [isMatch, any_foldl_advance_iff (List.pairwise_singleton _ _)]
  simp only [List.mem_singleton, exists_eq_left]

def Accepts (step : GlobStep) (text : String) : Prop :=
  match step with
  | .name wanted => text = wanted
  | .pattern tokens => Matches tokens text.toList
  | .recursive => True

theorem accepts_iff {step : GlobStep} {text : String} :
    step.accepts text = true ↔ Accepts step text := by
  cases step with
  | name wanted => exact beq_iff_eq
  | pattern tokens => exact isMatch_iff
  | recursive => exact iff_of_true rfl trivial

end LiterateTest.Glob
