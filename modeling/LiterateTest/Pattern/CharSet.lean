import LiterateTest.Text.CaseFolding
import LiterateTest.Text.Category

/-! Sets of characters, as ranges of code points. -/

namespace LiterateTest

/-- Ranges of code points with both ends included. -/
structure CharSet where
  ranges : List (Nat × Nat)
  deriving DecidableEq, Repr

namespace CharSet

def empty : CharSet := ⟨[]⟩

def range (first last : Nat) : CharSet := ⟨[(first, last)]⟩

def single (codePoint : Nat) : CharSet := range codePoint codePoint

def containsCode (set : CharSet) (codePoint : Nat) : Bool :=
  set.ranges.any fun (first, last) => first ≤ codePoint && codePoint ≤ last

def contains (set : CharSet) (c : Char) : Bool := set.containsCode c.toNat

def joinRanges : List (Nat × Nat) → List (Nat × Nat)
  | [] => []
  | [only] => [only]
  | (first, last) :: (nextFirst, nextLast) :: rest =>
      if nextFirst ≤ last + 1 then joinRanges ((first, max last nextLast) :: rest)
      else (first, last) :: joinRanges ((nextFirst, nextLast) :: rest)
  termination_by ranges => ranges.length

def normalize (set : CharSet) : CharSet :=
  ⟨joinRanges (set.ranges.mergeSort fun left right => left.1 ≤ right.1)⟩

def union (left right : CharSet) : CharSet :=
  normalize ⟨left.ranges ++ right.ranges⟩

def gaps (limit : Nat) : (next : Nat) → List (Nat × Nat) → List (Nat × Nat)
  | next, [] => if next ≤ limit then [(next, limit)] else []
  | next, (first, last) :: rest =>
      if next < first then (next, first - 1) :: gaps limit (last + 1) rest
      else gaps limit (last + 1) rest

def complement (limit : Nat) (set : CharSet) : CharSet :=
  ⟨gaps limit 0 set.normalize.ranges⟩

def difference (left right : CharSet) : CharSet :=
  complement 0x10FFFF (union (complement 0x10FFFF left) right)

def intersection (left right : CharSet) : CharSet :=
  difference left (complement 0x10FFFF right)

def symmetricDifference (left right : CharSet) : CharSet :=
  union (difference left right) (difference right left)

def closeUnderCase (set : CharSet) : CharSet :=
  let pairs := Text.foldingRuns.flatMap fun run =>
    (List.range run.count).map fun position =>
      let source : Nat := run.first + position * run.step
      (source, ((source : Int) + run.offset).toNat)
  let folded := pairs.filterMap fun (source, target) =>
    if set.containsCode source || set.containsCode target then some target else none
  let reached := normalize ⟨folded.map fun target => (target, target)⟩
  let sources := pairs.filterMap fun (source, target) =>
    if reached.containsCode target then some (source, source) else none
  union (union set reached) ⟨sources⟩

def isEmpty (set : CharSet) : Bool := set.ranges.isEmpty

def isBelow (set : CharSet) (limit : Nat) : Bool :=
  set.ranges.all fun (_, last) => last < limit

end CharSet

end LiterateTest
