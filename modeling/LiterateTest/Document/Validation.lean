import LiterateTest.Text.Basic

/-! Items of validation lists, and the expressions they stand for.

`cel: E` stands for `E`, `contains: T` and `regex: P` for a check of the output, and `not: I`
for the negation of what `I` stands for. Any other item is an expression itself, unless it only
introduces the items below it. -/

namespace LiterateTest.Validation

/-! ## Parts of an item -/

def valueAfter? (key : String) (item : List Char) : Option (List Char) :=
  (Text.stripLead? (key.toList ++ [':']) item).map Text.trimChars

theorem length_of_valueAfter? {key : String} {item value : List Char}
    (found : valueAfter? key item = some value) : value.length < item.length := by
  simp only [valueAfter?, Option.map_eq_some_iff] at found
  obtain ⟨rest, stripped, rfl⟩ := found
  have whole := Text.length_of_stripLead? stripped
  have trimmed := Text.length_trimChars_le rest
  simp only [List.length_append, List.length_cons, List.length_nil] at whole
  omega

def between? (quote : Char) (text : List Char) : Option (List Char) :=
  if 2 ≤ text.length ∧ text.head? = some quote ∧ text.getLast? = some quote then
    some (text.drop 1).dropLast
  else none

def unquote (text : List Char) : List Char :=
  let trimmed := Text.trimChars text
  match between? '"' trimmed, between? '\'' trimmed, between? '\x60' trimmed with
  | some inside, _, _ => inside
  | none, some inside, _ => inside
  | none, none, some inside => inside
  | none, none, none => trimmed

/-- Puts a backslash before each double quote that has none before it. -/
def escapeQuotes : (previous : Option Char) → List Char → List Char
  | _, [] => []
  | previous, c :: rest =>
      if c = '"' ∧ previous ≠ some '\\' then '\\' :: c :: escapeQuotes (some c) rest
      else c :: escapeQuotes (some c) rest

def outputCheck (method : String) (argument : List Char) : List Char :=
  ("stdout." ++ method ++ "(\"").toList ++ escapeQuotes none (unquote argument) ++ "\")".toList

/-! ## Items -/

def checkOf? (item : List Char) : Option (List Char) :=
  match valueAfter? "cel" item, valueAfter? "contains" item, valueAfter? "regex" item with
  | some expression, _, _ => some expression
  | none, some text, _ => some (outputCheck "contains" text)
  | none, none, some pattern => some (outputCheck "matches" pattern)
  | none, none, none => none

/-- The expression for an item. A negated `contains` needs no parentheses. -/
def compileChars (item : List Char) : List Char :=
  match checkOf? (Text.trimChars item) with
  | some check => check
  | none =>
      match _found : valueAfter? "not" (Text.trimChars item) with
      | some inner =>
          match valueAfter? "contains" inner with
          | some text => '!' :: outputCheck "contains" text
          | none => "!(".toList ++ compileChars inner ++ [')']
      | none => Text.trimChars item
  termination_by item.length
  decreasing_by
    have shorter := length_of_valueAfter? _found
    have trimmedLength := Text.length_trimChars_le item
    omega

def compileItem (item : String) : String :=
  String.ofList (compileChars item.toList)

/-- Whether an item only introduces those below it: it ends with its only colon, or has no
colon and names validation. -/
def isLabel (item : List Char) : Bool :=
  match item.reverse with
  | ':' :: key => !key.contains ':'
  | _ => !item.contains ':' && Text.containsChars "validation".toList (item.map Char.toLower)

/-! ## Lists -/

def isValidationList (text : String) : Bool :=
  Text.contains (Text.lowerAscii text) "validation"
    || ["cel:", "regex:", "contains:"].any (Text.contains text)

def keptItems (items : List String) : List (List Char) :=
  (items.map fun item => Text.trimChars item.toList).filter fun item =>
    !item.isEmpty && !isLabel item

def fragments (items : List String) : List (List Char) :=
  ((keptItems items).map compileChars).filter fun fragment => !fragment.isEmpty

/-- Puts parentheses around a fragment that could fall apart when it is joined with others. -/
def protect (fragment : List Char) : List Char :=
  if Text.containsChars ['|', '|'] fragment then '(' :: fragment ++ [')'] else fragment

def joinFragments (parts : List (List Char)) : List Char :=
  (parts.intersperse " && ".toList).flatten

def compile (items : List String) : String :=
  match fragments items with
  | [only] => String.ofList only
  | parts => String.ofList (joinFragments (parts.map protect))

end LiterateTest.Validation
