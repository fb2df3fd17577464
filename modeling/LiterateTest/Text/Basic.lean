/-! Operations on plain text. Each is defined on lists of characters, where it is a
plain recursion, and read on strings through `String.toList`. -/

-- Sums begin with the zero of core.
attribute [local instance (high)] Zero.ofOfNat0

namespace LiterateTest.Text

/-! ## Blank characters -/

def isBlank (c : Char) : Bool :=
  let code := c.toNat
  (9 ≤ code && code ≤ 13) || code == 0x20 || code == 0x85 || code == 0xA0 || code == 0x1680
    || (0x2000 ≤ code && code ≤ 0x200A) || code == 0x2028 || code == 0x2029 || code == 0x202F
    || code == 0x205F || code == 0x3000

def isAsciiBlank (c : Char) : Bool :=
  c == ' ' || c == '\t' || c == '\n' || c == '\r' || c == '\x0c'

def dropBlankEnd (text : List Char) : List Char :=
  (text.reverse.dropWhile isBlank).reverse

def trimChars (text : List Char) : List Char :=
  dropBlankEnd (text.dropWhile isBlank)

def trimStart (text : String) : String :=
  String.ofList (text.toList.dropWhile isBlank)

def trimEnd (text : String) : String :=
  String.ofList (dropBlankEnd text.toList)

def trim (text : String) : String :=
  String.ofList (trimChars text.toList)

def isBlankText (text : String) : Bool :=
  text.toList.all isBlank

/-! ## Letter case -/

def lowerAscii (text : String) : String :=
  String.ofList (text.toList.map Char.toLower)

def upperAscii (text : String) : String :=
  String.ofList (text.toList.map Char.toUpper)

def equalIgnoringCase (left right : String) : Bool :=
  lowerAscii left == lowerAscii right

def isAsciiPunctuation (c : Char) : Bool :=
  let code := c.toNat
  33 ≤ code && code < 127 && !c.isAlphanum

def isWordStart (c : Char) : Bool :=
  c.isAlpha || c == '_'

def isWordRest (c : Char) : Bool :=
  c.isAlphanum || c == '_'

/-! ## Searching -/

def stripLead? : (lead text : List Char) → Option (List Char)
  | [], text => some text
  | _ :: _, [] => none
  | c :: lead, d :: text => if c = d then stripLead? lead text else none

theorem length_of_stripLead? {lead text rest : List Char}
    (found : stripLead? lead text = some rest) : text.length = lead.length + rest.length := by
  induction lead generalizing text with
  | nil => simp_all [stripLead?]
  | cons c lead induction =>
      cases text with
      | nil => simp [stripLead?] at found
      | cons d text =>
          by_cases same : c = d
          · rw [stripLead?, if_pos same] at found
            have shorter := induction found
            simp only [List.length_cons]
            omega
          · simp [stripLead?, same] at found

theorem length_dropWhile_le (holds : Char → Bool) (text : List Char) :
    (text.dropWhile holds).length ≤ text.length :=
  (List.dropWhile_suffix holds).length_le

theorem length_trimChars_le (text : List Char) : (trimChars text).length ≤ text.length := by
  have inner := length_dropWhile_le isBlank (text.dropWhile isBlank).reverse
  have outer := length_dropWhile_le isBlank text
  simp only [trimChars, dropBlankEnd, List.length_reverse] at *
  omega

def containsChars (needle : List Char) : List Char → Bool
  | [] => needle.isEmpty
  | c :: rest => needle.isPrefixOf (c :: rest) || containsChars needle rest

def contains (text needle : String) : Bool :=
  containsChars needle.toList text.toList

def startsWith (text lead : String) : Bool :=
  lead.toList.isPrefixOf text.toList

def endsWith (text tail : String) : Bool :=
  tail.toList.isSuffixOf text.toList

def dropLead? (text lead : String) : Option String :=
  (stripLead? lead.toList text.toList).map String.ofList

def dropTail? (text tail : String) : Option String :=
  (stripLead? tail.toList.reverse text.toList.reverse).map
    fun rest => String.ofList rest.reverse

example : dropLead? "cel: x" "cel:" = some " x" := by decide
example : dropTail? "12ms" "ms" = some "12" := by decide

/-! ## Splitting and replacing

A separator is found from left to right, and two occurrences never overlap.
`skip` counts the characters of the occurrence just found that are still ahead. -/

def splitFrom (separator : List Char) :
    (current : List Char) → (skip : Nat) → List Char → List (List Char)
  | current, _, [] => [current.reverse]
  | current, skip + 1, _ :: rest => splitFrom separator current skip rest
  | current, 0, c :: rest =>
      if separator.isPrefixOf (c :: rest) then
        current.reverse :: splitFrom separator [] (separator.length - 1) rest
      else
        splitFrom separator (c :: current) 0 rest

/-- The pieces between the occurrences of a separator. An empty separator stands before,
between and after all characters. -/
def splitChars (separator text : List Char) : List (List Char) :=
  if separator.isEmpty then
    [] :: text.map (fun c => [c]) ++ [[]]
  else
    splitFrom separator [] 0 text

def split (text separator : String) : List String :=
  (splitChars separator.toList text.toList).map String.ofList

def joinWith (separator : String) (pieces : List String) : String :=
  String.intercalate separator pieces

def replace (text target replacement : String) : String :=
  joinWith replacement (split text target)

example : split "a,,b" "," = ["a", "", "b"] := by decide
example : split "ab" "" = ["", "a", "b", ""] := by decide

def wordsFrom : (current : List Char) → List Char → List (List Char)
  | current, [] => if current.isEmpty then [] else [current.reverse]
  | current, c :: rest =>
      if isBlank c then
        if current.isEmpty then wordsFrom [] rest
        else current.reverse :: wordsFrom [] rest
      else wordsFrom (c :: current) rest

def words (text : String) : List String :=
  (wordsFrom [] text.toList).map String.ofList

def splitAtFirst? (mark : Char) : List Char → Option (List Char × List Char)
  | [] => none
  | c :: rest =>
      if c = mark then some ([], rest)
      else (splitAtFirst? mark rest).map fun (before, after) => (c :: before, after)

def splitAtLast? (mark : Char) (text : List Char) : Option (List Char × List Char) :=
  (splitAtFirst? mark text.reverse).map fun (after, before) => (before.reverse, after.reverse)

/-! ## Lines -/

/-- Cuts a text after each line break; the pieces joined give the text back. -/
def linesWithBreaks : List Char → List (List Char)
  | [] => []
  | c :: rest =>
      if c = '\n' then
        [c] :: linesWithBreaks rest
      else
        match linesWithBreaks rest with
        | [] => [[c]]
        | line :: lines => (c :: line) :: lines

theorem flatten_linesWithBreaks (text : List Char) :
    (linesWithBreaks text).flatten = text := by
  induction text with
  | nil => rfl
  | cons c rest induction =>
      rw [linesWithBreaks]
      split
      · simp [induction]
      · split
        · next none => rw [none] at induction; simpa using induction
        · next line lines some => rw [some] at induction; simpa using induction

def dropLineBreak (line : List Char) : List Char :=
  match line.reverse with
  | '\n' :: '\r' :: rest => rest.reverse
  | '\n' :: rest => rest.reverse
  | _ => line

def lines (text : String) : List String :=
  (linesWithBreaks text.toList).map fun line => String.ofList (dropLineBreak line)

/-! ## Sizes -/

def utf8Length (text : List Char) : Nat :=
  (text.map Char.utf8Size).sum

def firstChar? (text : String) : Option Char :=
  text.toList.head?

end LiterateTest.Text
