import LiterateTest.Json.Number
import LiterateTest.Record

/-! JSON values. The entries of a map are kept in the order of their keys, each key once;
`Record` has the operations that keep them so. -/

namespace LiterateTest

inductive Json where
  | null
  | bool (value : Bool)
  | number (value : Number)
  | string (value : String)
  | list (items : List Json)
  | map (entries : List (String × Json))

namespace Json

instance : Inhabited Json := ⟨null⟩

def ofNat (value : Nat) : Json :=
  match Number.ofInt? value with
  | some integer => .number integer
  | none => .null

def ofStrings (entries : Record String) : Json :=
  .map (entries.map fun (key, value) => (key, string value))

mutual
def same : Json → Json → Bool
  | null, null => true
  | bool left, bool right => left == right
  | number left, number right => left == right
  | string left, string right => left == right
  | list left, list right => sameItems left right
  | map left, map right => sameEntries left right
  | _, _ => false

def sameItems : List Json → List Json → Bool
  | [], [] => true
  | left :: lefts, right :: rights => same left right && sameItems lefts rights
  | _, _ => false

def sameEntries : List (String × Json) → List (String × Json) → Bool
  | [], [] => true
  | (leftKey, left) :: lefts, (rightKey, right) :: rights =>
      leftKey == rightKey && same left right && sameEntries lefts rights
  | _, _ => false
end

instance : BEq Json := ⟨same⟩

end Json

end LiterateTest
