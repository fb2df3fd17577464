import LiterateTest.Number.Layout
import LiterateTest.Yaml.Node

/-! What nodes mean. A plain scalar is null, a boolean, a number or else a string, by its
spelling; a quoted scalar is a string. -/

namespace LiterateTest.Yaml

inductive Value where
  | null
  | bool (value : Bool)
  | int (value : Int)
  | float (value : Float)
  | string (value : String)
  | sequence (items : List Value)
  | mapping (entries : List (Value × Value))
  | tagged (tag : String) (value : Value)

/-! ## Spellings of scalars -/

def isNullText (text : String) : Bool :=
  text == "null" || text == "Null" || text == "NULL" || text == "~"

def boolOfText? (text : String) : Option Bool :=
  if text == "true" || text == "True" || text == "TRUE" then some true
  else if text == "false" || text == "False" || text == "FALSE" then some false
  else none

def dropSign : List Char → List Char
  | '-' :: rest => rest
  | '+' :: rest => rest
  | text => text

def isPaddedDigits (text : List Char) : Bool :=
  match dropSign text with
  | '0' :: rest => !rest.isEmpty && rest.all Char.isDigit
  | _ => false

def digitsOf? (base : Nat) (text : List Char) : Option Nat :=
  let digits := match text with
    | '+' :: rest => rest
    | rest => rest
  let isDigit (c : Char) : Bool :=
    Integer.isHexDigit c && Integer.ofDigits.hexValue c < base
  if digits.isEmpty || !digits.all isDigit then none else some (Integer.ofDigits base digits)

def startsWithSign : List Char → Bool
  | '+' :: _ => true
  | '-' :: _ => true
  | _ => false

/-- A number without a minus sign: hexadecimal, octal or binary after `0x`, `0o` or `0b`, and
otherwise decimal. -/
def unsignedOf? (text : List Char) : Option Nat :=
  let unsigned := match text with
    | '+' :: rest => rest
    | rest => rest
  if unsigned.length < text.length && startsWithSign unsigned then none
  else
    let based (base : Nat) (rest : List Char) : Option Nat :=
      if startsWithSign rest then none else digitsOf? base rest
    match unsigned with
    | '0' :: 'x' :: rest => based 16 rest
    | '0' :: 'o' :: rest => based 8 rest
    | '0' :: 'b' :: rest => based 2 rest
    | digits => if isPaddedDigits text then none else digitsOf? 10 digits

def negativeOf? (text : List Char) : Option Nat :=
  let based (base : Nat) (rest : List Char) : Option Nat :=
    if startsWithSign rest then none else digitsOf? base rest
  match text with
  | '-' :: '0' :: 'x' :: rest => based 16 rest
  | '-' :: '0' :: 'o' :: rest => based 8 rest
  | '-' :: '0' :: 'b' :: rest => based 2 rest
  | '-' :: rest =>
      if isPaddedDigits text || startsWithSign rest then none else digitsOf? 10 rest
  | _ => none

def signedOf? (text : List Char) : Option Int :=
  match unsignedOf? text, negativeOf? text with
  | some value, _ => some (Int.ofNat value)
  | none, some value => some (-(value : Int))
  | none, none => none

def floatOf? (text : List Char) : Option Float :=
  let unsigned := match text with
    | '+' :: rest => rest
    | rest => rest
  if unsigned.length < text.length && startsWithSign unsigned then none
  else
    match String.ofList unsigned with
    | ".inf" | ".Inf" | ".INF" => some Double.infinity
    | "-.inf" | "-.Inf" | "-.INF" => some (-Double.infinity)
    | name =>
        if text == unsigned && (name == ".nan" || name == ".NaN" || name == ".NAN") then
          some (0.0 / 0.0)
        else (Double.read? unsigned).filter fun value => value.isFinite

/-- The integer that a text spells. There is none in the result, `some none`, for one that
needs more than 64 bits. -/
def integerOf? (text : List Char) : Option (Option Int) :=
  match unsignedOf? text, negativeOf? text with
  | some value, _ =>
      if value < 2 ^ 64 then some (some (Int.ofNat value))
      else if value < 2 ^ 128 then some none
      else none
  | none, some value =>
      if value ≤ 2 ^ 63 then some (some (-(value : Int)))
      else if value ≤ 2 ^ 127 then some none
      else none
  | none, none => none

def ofPlain? (text : String) : Option Value :=
  let chars := text.toList
  if text.isEmpty || isNullText text then some .null
  else
    match boolOfText? text with
    | some value => some (.bool value)
    | none =>
        match integerOf? chars with
        | some found => found.map .int
        | none =>
            match if isPaddedDigits chars then none else floatOf? chars with
            | some value => some (.float value)
            | none => some (.string text)

/-! ## Nodes -/

def coreTag (name : String) : String := "tag:yaml.org,2002:" ++ name

def localTag? (tag : Option String) : Option String :=
  tag.bind fun name => Text.dropLead? name "!"

def ofScalar? (tag : Option String) (style : ScalarStyle) (text : String) : Option Value :=
  if tag == some (coreTag "bool") then (boolOfText? text).map .bool
  else if tag == some (coreTag "int") then (integerOf? text.toList).join.map .int
  else if tag == some (coreTag "float") then (floatOf? text.toList).map .float
  else if tag == some (coreTag "null") then if isNullText text then some .null else none
  else if tag.isNone && style == .plain then ofPlain? text
  else some (.string text)

mutual
def Value.same : Value → Value → Bool
  | .null, .null => true
  | .bool left, .bool right => left == right
  | .int left, .int right => left == right
  | .float left, .float right => left == right || (left.isNaN && right.isNaN)
  | .string left, .string right => left == right
  | .sequence left, .sequence right => Value.sameItems left right
  | .mapping left, .mapping right => Value.sameEntries left right
  | .tagged leftTag left, .tagged rightTag right => leftTag == rightTag && Value.same left right
  | _, _ => false

def Value.sameItems : List Value → List Value → Bool
  | [], [] => true
  | left :: lefts, right :: rights => Value.same left right && Value.sameItems lefts rights
  | _, _ => false

def Value.sameEntries : List (Value × Value) → List (Value × Value) → Bool
  | [], [] => true
  | (leftKey, left) :: lefts, (rightKey, right) :: rights =>
      Value.same leftKey rightKey && Value.same left right && Value.sameEntries lefts rights
  | _, _ => false
end

mutual
def Node.value? : Node → Option Value
  | .scalar tag style text =>
      match localTag? tag with
      | some name => (ofScalar? none style text).map (Value.tagged name)
      | none => ofScalar? tag style text
  | .sequence tag items =>
      (Node.itemValues? items).map fun values =>
        match localTag? tag with
        | some name => .tagged name (.sequence values)
        | none => .sequence values
  | .mapping tag entries =>
      (Node.entryValues? [] entries).map fun values =>
        match localTag? tag with
        | some name => .tagged name (.mapping values)
        | none => .mapping values

def Node.itemValues? : List Node → Option (List Value)
  | [] => some []
  | item :: rest => do
      let value ← Node.value? item
      let values ← Node.itemValues? rest
      some (value :: values)

def Node.entryValues? (seen : List (Value × Value)) :
    List (Node × Node) → Option (List (Value × Value))
  | [] => some seen.reverse
  | (key, item) :: rest => do
      let keyValue ← Node.value? key
      let value ← Node.value? item
      if seen.any fun (known, _) => known.same keyValue then none
      else Node.entryValues? ((keyValue, value) :: seen) rest
end

/-! ## Typed fields

A field of a fixed type reads its node by that type, whatever a plain scalar would mean. -/

namespace Node

/-- The text of a scalar as it is written, so that a number or `null` is text too. -/
def text? : Node → Option String
  | .scalar _ _ text => some text
  | _ => none

def isMissing : Node → Bool
  | .scalar tag style text => tag.isNone && style == .plain && (text.isEmpty || isNullText text)
  | _ => false

def isVoid : Node → Bool
  | .scalar _ style text => style == .plain && text.isEmpty
  | _ => false

def items? : Node → Option (List Node)
  | .sequence _ items => some items
  | other => if other.isVoid then some [] else none

def entries? : Node → Option (List (Node × Node))
  | .mapping _ entries => some entries
  | other => if other.isVoid then some [] else none

def texts? (node : Node) : Option (List String) :=
  node.items?.bind fun items => items.mapM text?

/-- Entries under text keys; of a key that stands twice, the last value wins. -/
def textRecord? (read? : Node → Option α) (node : Node) : Option (List (String × α)) :=
  node.entries?.bind fun entries => entries.mapM fun (key, value) => do
    let name ← key.text?
    let found ← read? value
    some (name, found)

def optional? (read? : Node → Option α) (node : Node) : Option (Option α) :=
  if node.isMissing then some none else (read? node).map some

def int32? : Node → Option Int
  | .scalar _ .plain text =>
      (signedOf? text.toList).filter fun value => -(2 ^ 31) ≤ value && value < 2 ^ 31
  | _ => none

end Node

/-! ## Mappings as texts -/

def rootEntries (state : NodeState) : Entries :=
  match properties? state with
  | none => ([], none)
  | some (_, inner) =>
      let steps := inner.tokens.length + 1
      match inner.next? with
      | some .flowMappingStart => flowEntries (node? (depthLimit - 1)) steps true inner.advance
      | some .blockMappingStart => blockEntries (node? (depthLimit - 1)) steps inner.advance
      | _ =>
          match node? depthLimit true false state with
          | none => ([], none)
          | some (root, after) =>
              match root.entries? with
              | none => ([], none)
              | some entries => (entries, some after)

/-- What a text of YAML has as entries of a mapping, as far as they can be read, and whether the text
is this mapping as a whole. A text without a document has no entries. -/
structure Reading where
  entries : List (Node × Node)
  isWhole : Bool

def Reading.ofText (text : String) : Reading :=
  let (tokens, isComplete) := tokens text
  match start? tokens with
  | none => ⟨[], false⟩
  | some (explicit, state) =>
      let (entries, after) :=
        if isRootless explicit state then ([], some state) else rootEntries state
      ⟨entries, isComplete && after.any fun rest => (dropDocumentEnds rest.tokens).isEmpty⟩

end LiterateTest.Yaml
