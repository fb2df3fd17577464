import LiterateTest.Number.Reading
import LiterateTest.Pattern.Basic

/-! The text of patterns. A text that is no pattern has no reading; there are no references to
groups and no conditions on what lies beside a match, so none can be asked for. -/

namespace LiterateTest.Pattern

structure Flags where
  ignoreCase : Bool := false
  multiLine : Bool := false
  dotMatchesBreak : Bool := false
  carriageBreaks : Bool := false
  unicode : Bool := true
  verbose : Bool := false

namespace Flags

def set? (flags : Flags) (letter : Char) (on : Bool) : Option Flags :=
  match letter with
  | 'i' => some { flags with ignoreCase := on }
  | 'm' => some { flags with multiLine := on }
  | 's' => some { flags with dotMatchesBreak := on }
  | 'R' => some { flags with carriageBreaks := on }
  | 'u' => some { flags with unicode := on }
  | 'x' => some { flags with verbose := on }
  | 'U' => some flags
  | _ => none

/-- The largest code point a class can hold; without Unicode it holds single bytes. -/
def limit (flags : Flags) : Nat := if flags.unicode then 0x10FFFF else 0xFF

end Flags

def skipVerbose (flags : Flags) : (steps : Nat) → List Char → List Char
  | 0, text => text
  | steps + 1, text =>
      if !flags.verbose then text
      else
        match text.dropWhile Text.isBlank with
        | '#' :: rest => skipVerbose flags steps (rest.dropWhile (· != '\n'))
        | rest => rest

def skip (flags : Flags) (text : List Char) : List Char :=
  skipVerbose flags text.length text

/-! ## Sets in context -/

def closed (flags : Flags) (set : CharSet) : CharSet :=
  if flags.ignoreCase then set.closeUnderCase else set

/-- Without Unicode a set must not hold parts of longer characters. -/
def ofSet? (flags : Flags) (set : CharSet) : Option Pattern :=
  if flags.unicode || set.isBelow 0x80 then some (.chars set) else none

def literal (flags : Flags) (codePoint : Nat) : Pattern :=
  if flags.ignoreCase then
    .chars (CharSet.normalize ⟨(Text.caseVariants codePoint).map fun code => (code, code)⟩)
  else .chars (CharSet.single codePoint)

/-! ## Escapes -/

inductive Escape where
  /-- A character; `isByte` marks one written with two hexadecimal digits. -/
  | literal (codePoint : Nat) (isByte : Bool)
  | set (chars : CharSet)
  | boundary (kind : Boundary)

def isScalar (codePoint : Nat) : Bool :=
  codePoint < 0xD800 || (0xE000 ≤ codePoint && codePoint ≤ 0x10FFFF)

def readHex? (digitCount : Nat) (text : List Char) : Option (Escape × List Char) :=
  match text with
  | '\x7b' :: rest =>
      (Text.splitAtFirst? '\x7d' rest).bind fun (digits, rest) =>
        let value := Integer.ofDigits 16 digits
        if digits.isEmpty || !digits.all Integer.isHexDigit || !isScalar value then none
        else some (.literal value false, rest)
  | text =>
      let digits := text.take digitCount
      let value := Integer.ofDigits 16 digits
      if digits.length < digitCount || !digits.all Integer.isHexDigit || !isScalar value then none
      else some (.literal value (digitCount == 2), text.drop digitCount)

def readProperty? (text : List Char) : Option (CharSet × List Char) :=
  match text with
  | [] => none
  | '\x7b' :: rest =>
      (Text.splitAtFirst? '\x7d' rest).bind fun (name, rest) =>
        let found :=
          match Text.splitAtFirst? '=' name, Text.splitAtFirst? ':' name with
          | some (key, value), _ =>
              match key.reverse with
              | '!' :: key =>
                  (CharSet.propertyValue? (String.ofList key.reverse) (String.ofList value)).map
                    (CharSet.complement 0x10FFFF)
              | _ => CharSet.propertyValue? (String.ofList key) (String.ofList value)
          | none, some (key, value) =>
              CharSet.propertyValue? (String.ofList key) (String.ofList value)
          | none, none => CharSet.property? (String.ofList name)
        found.map (·, rest)
  | letter :: rest => (CharSet.property? (String.singleton letter)).map (·, rest)

def namedClass (flags : Flags) (letter : Char) : CharSet :=
  let set :=
    match letter.toLower with
    | 'd' => if flags.unicode then CharSet.decimalDigits else CharSet.asciiDigits
    | 's' => if flags.unicode then CharSet.whiteSpace else CharSet.asciiSpace
    | _ => if flags.unicode then CharSet.wordCharacters else CharSet.asciiWordCharacters
  if letter.isUpper then set.complement flags.limit else set

def readWordBoundary? (ascii : Bool) (text : List Char) : Option (Escape × List Char) :=
  match text with
  | '\x7b' :: rest =>
      if rest.head?.any fun c => c.isAlpha || c == '-' then
        (Text.splitAtFirst? '\x7d' rest).bind fun (name, rest) =>
          let kind? : Option Boundary :=
            match String.ofList name with
            | "start" => some (.wordStart ascii)
            | "end" => some (.wordEnd ascii)
            | "start-half" => some (.wordStartHalf ascii)
            | "end-half" => some (.wordEndHalf ascii)
            | _ => none
          kind?.map (.boundary ·, rest)
      else if rest.isEmpty then none
      else some (.boundary (.word ascii), text)
  | text => some (.boundary (.word ascii), text)

def isEscapable (c : Char) : Bool :=
  c.toNat < 128 && !c.isAlphanum && c != '<' && c != '>'

def readEscape? (flags : Flags) : List Char → Option (Escape × List Char)
  | [] => none
  | c :: rest =>
      let ascii := !flags.unicode
      match c with
      | 'x' => readHex? 2 rest
      | 'u' => readHex? 4 rest
      | 'U' => readHex? 8 rest
      | 'p' | 'P' =>
          if ascii then none
          else
            (readProperty? rest).map fun (set, rest) =>
              let folded := closed flags set
              (.set (if c == 'P' then folded.complement 0x10FFFF else folded), rest)
      | 'd' | 'D' | 's' | 'S' | 'w' | 'W' => some (.set (namedClass flags c), rest)
      | 'a' => some (.literal 7 false, rest)
      | 'f' => some (.literal 12 false, rest)
      | 't' => some (.literal 9 false, rest)
      | 'n' => some (.literal 10 false, rest)
      | 'r' => some (.literal 13 false, rest)
      | 'v' => some (.literal 11 false, rest)
      | 'A' => some (.boundary .textStart, rest)
      | 'z' => some (.boundary .textEnd, rest)
      | 'b' => readWordBoundary? ascii rest
      | 'B' => some (.boundary (.notWord ascii), rest)
      | '<' => some (.boundary (.wordStart ascii), rest)
      | '>' => some (.boundary (.wordEnd ascii), rest)
      | other => if isEscapable other then some (.literal other.toNat false, rest) else none

/-! ## Classes in brackets -/

inductive SetOperator where
  | intersection | difference | symmetricDifference

def SetOperator.apply (operator : SetOperator) (left right : CharSet) : CharSet :=
  match operator with
  | intersection => left.intersection right
  | difference => left.difference right
  | symmetricDifference => left.symmetricDifference right

def readSetOperator? : List Char → Option (SetOperator × List Char)
  | '&' :: '&' :: rest => some (.intersection, rest)
  | '-' :: '-' :: rest => some (.difference, rest)
  | '~' :: '~' :: rest => some (.symmetricDifference, rest)
  | _ => none

def readAsciiClass? : List Char → Option (CharSet × List Char)
  | ':' :: rest =>
      let (negated, rest) := match rest with
        | '^' :: rest => (true, rest)
        | rest => (false, rest)
      (Text.splitAtFirst? ':' rest).bind fun (name, rest) =>
        match rest with
        | ']' :: rest =>
            (CharSet.asciiClass? (String.ofList name)).map fun set =>
              (if negated then set.complement 0x10FFFF else set, rest)
        | _ => none
  | _ => none

/-- A class under construction: the operand to the left of the last operator with that
operator, and what has been collected since. -/
structure OpenClass where
  negated : Bool
  pending : Option (SetOperator × CharSet) := none
  current : CharSet := CharSet.empty

namespace OpenClass

def add (open_ : OpenClass) (set : CharSet) : OpenClass :=
  { open_ with current := open_.current.union set }

def value (open_ : OpenClass) (flags : Flags) : CharSet :=
  match open_.pending with
  | none => open_.current
  | some (operator, left) => operator.apply (closed flags left) (closed flags open_.current)

def push (open_ : OpenClass) (flags : Flags) (operator : SetOperator) : OpenClass :=
  { open_ with pending := some (operator, open_.value flags), current := CharSet.empty }

def close (open_ : OpenClass) (flags : Flags) : CharSet :=
  let set := closed flags (open_.value flags)
  if open_.negated then set.complement flags.limit else set

end OpenClass

def readMember? (flags : Flags) : List Char → Option (Escape × List Char)
  | [] => none
  | '\\' :: rest => readEscape? flags rest
  | c :: rest => some (.literal c.toNat false, rest)

def literalAllowed (flags : Flags) (codePoint : Nat) (isByte : Bool) : Bool :=
  flags.unicode || codePoint < 0x80 || isByte

def memberSet? (flags : Flags) : Escape → Option CharSet
  | .literal codePoint isByte =>
      if literalAllowed flags codePoint isByte then some (CharSet.single codePoint) else none
  | .set members => some members
  | .boundary _ => none

/-- A member, or a range between two literals. A hyphen before the closing bracket or before
another hyphen makes no range. -/
def readRange? (flags : Flags) (text : List Char) : Option (CharSet × List Char) := do
  let (first, rest) ← readMember? flags text
  let rest := skip flags rest
  let alone := (memberSet? flags first).map (·, rest)
  match rest with
  | [] => none
  | '-' :: after =>
      match skip flags after with
      | [] => none
      | ']' :: _ => alone
      | '-' :: _ => alone
      | after => do
          let (second, rest) ← readMember? flags after
          match first, second with
          | .literal low lowByte, .literal high highByte =>
              if low ≤ high && literalAllowed flags low lowByte
                  && literalAllowed flags high highByte then
                some (CharSet.range low high, rest)
              else none
          | _, _ => none
  | _ => alone

def takeHyphens (flags : Flags) : (steps : Nat) → OpenClass → List Char → OpenClass × List Char
  | 0, open_, text => (open_, text)
  | steps + 1, open_, text =>
      match text with
      | '-' :: rest => takeHyphens flags steps (open_.add (CharSet.single 0x2D)) (skip flags rest)
      | text => (open_, text)

/-- The start of a class, read after its bracket. A closing bracket that comes first stands
for itself. -/
def openClass (flags : Flags) (text : List Char) : OpenClass × List Char :=
  let (negated, rest) := match skip flags text with
    | '^' :: rest => (true, skip flags rest)
    | rest => (false, rest)
  let (started, rest) := takeHyphens flags rest.length ⟨negated, none, CharSet.empty⟩ rest
  match rest with
  | ']' :: after =>
      if started.current.isEmpty then (started.add (CharSet.single 0x5D), skip flags after)
      else (started, rest)
  | rest => (started, rest)

/-- Reads a class up to its closing bracket; classes that are open around it wait in
`enclosing`. -/
def readClass? (flags : Flags) :
    (steps : Nat) → (enclosing : List OpenClass) → OpenClass → List Char →
    Option (CharSet × List Char)
  | 0, _, _, _ => none
  | steps + 1, enclosing, open_, text =>
      match skip flags text with
      | [] => none
      | '[' :: rest =>
          match readAsciiClass? rest with
          | some (set, rest) => readClass? flags steps enclosing (open_.add set) rest
          | none =>
              let (started, rest) := openClass flags rest
              readClass? flags steps (open_ :: enclosing) started rest
      | ']' :: rest =>
          let set := open_.close flags
          match enclosing with
          | [] => some (set, rest)
          | outer :: enclosing => readClass? flags steps enclosing (outer.add set) rest
      | text =>
          match readSetOperator? text with
          | some (operator, rest) =>
              readClass? flags steps enclosing (open_.push flags operator) rest
          | none =>
              (readRange? flags text).bind fun (set, rest) =>
                readClass? flags steps enclosing (open_.add set) rest

/-! ## Repetitions -/

def repeatLimit : Nat := 2 ^ 32

def readCount? (text : List Char) : Option (Nat × List Char) :=
  let text := text.dropWhile Text.isBlank
  let digits := text.takeWhile Char.isDigit
  let value := Integer.ofDigits 10 digits
  if digits.isEmpty || repeatLimit ≤ value then none
  else some (value, (text.dropWhile Char.isDigit).dropWhile Text.isBlank)

def readBounds? (flags : Flags) (text : List Char) : Option ((Nat × Option Nat) × List Char) := do
  let (least, rest) ← readCount? (skip flags text)
  match rest with
  | '\x7d' :: rest => some ((least, some least), rest)
  | ',' :: rest =>
      match skip flags rest with
      | '\x7d' :: rest => some ((least, none), rest)
      | rest => do
          let (most, rest) ← readCount? rest
          match rest with
          | '\x7d' :: rest => if least ≤ most then some ((least, some most), rest) else none
          | _ => none
  | _ => none

/-- A question mark after a repetition changes which match is found, not whether there is one. -/
def dropLazy : List Char → List Char
  | '?' :: rest => rest
  | text => text

def readRepetition? (flags : Flags) : List Char → Option (Option ((Nat × Option Nat) × List Char))
  | '?' :: rest => some (some ((0, some 1), dropLazy rest))
  | '*' :: rest => some (some ((0, none), dropLazy rest))
  | '+' :: rest => some (some ((1, none), dropLazy rest))
  | '\x7b' :: rest =>
      some ((readBounds? flags rest).map fun (bounds, rest) =>
        (bounds, dropLazy (skip flags rest)))
  | _ => none

/-! ## Groups -/

def readFlags? : (negated afterHyphen : Bool) → (seen : List Char) → Flags → List Char →
    Option (Flags × List Char)
  | _, _, _, _, [] => none
  | negated, afterHyphen, seen, flags, c :: rest =>
      if c = ')' ∨ c = ':' then
        if afterHyphen then none else some (flags, c :: rest)
      else if c = '-' then
        if negated then none else readFlags? true true seen flags rest
      else if seen.contains c then none
      else
        (flags.set? c !negated).bind fun flags => readFlags? negated false (c :: seen) flags rest

def isNameStart (c : Char) : Bool :=
  c == '_' || (c.isAlpha || (128 ≤ c.toNat && CharSet.alphabetic.contains c))

def isNameRest (c : Char) : Bool :=
  isNameStart c || c.isDigit || c == '.' || c == '[' || c == ']'
    || (128 ≤ c.toNat && Text.isDecimalDigit c)

def readName? (text : List Char) : Option (String × List Char) :=
  (Text.splitAtFirst? '>' text).bind fun (name, rest) =>
    match name with
    | [] => none
    | first :: others =>
        if isNameStart first && others.all isNameRest then some (String.ofList name, rest) else none

inductive Opening where
  | directive (flags : Flags)
  | group (flags : Flags) (name : Option String)

def readOpening? (flags : Flags) (text : List Char) : Option (Opening × List Char) :=
  match text with
  | '?' :: '=' :: _ => none
  | '?' :: '!' :: _ => none
  | '?' :: '<' :: '=' :: _ => none
  | '?' :: '<' :: '!' :: _ => none
  | '?' :: 'P' :: '<' :: rest | '?' :: '<' :: rest =>
      (readName? rest).map fun (name, rest) => (.group flags (some name), rest)
  | '?' :: rest =>
      (readFlags? false false [] flags rest).bind fun (changed, after) =>
        match after with
        | ':' :: after => some (.group changed none, after)
        | ')' :: after =>
            match rest with
            | ')' :: _ => none
            | _ => some (.directive changed, after)
        | _ => none
  | rest => some (.group flags none, rest)

/-- The parts read so far of the group that is being read. Items stand in reverse order; one
that is missing only changed the flags and cannot be repeated. -/
structure OpenGroup where
  names : List String
  items : List (Option Pattern) := []
  branches : List Pattern := []

namespace OpenGroup

def add (group : OpenGroup) (item : Option Pattern) : OpenGroup :=
  { group with items := item :: group.items }

def branch (group : OpenGroup) : Pattern :=
  group.items.foldl (fun later item =>
    match item with
    | none => later
    | some found => if later = .empty then found else .sequence found later) .empty

def nextBranch (group : OpenGroup) : OpenGroup :=
  { group with items := [], branches := group.branch :: group.branches }

def close (group : OpenGroup) : Pattern :=
  group.branches.foldl (fun later found => .either found later) group.branch

def repeatLast? (group : OpenGroup) (least : Nat) (most : Option Nat) : Option OpenGroup :=
  match group.items with
  | some body :: items => some { group with items := some (.repeated least most body) :: items }
  | _ => none

end OpenGroup

def lineStart (flags : Flags) : Boundary :=
  if !flags.multiLine then .textStart
  else if flags.carriageBreaks then .carriageLineStart else .lineStart

def lineEnd (flags : Flags) : Boundary :=
  if !flags.multiLine then .textEnd
  else if flags.carriageBreaks then .carriageLineEnd else .lineEnd

def anyChar? (flags : Flags) : Option Pattern :=
  let breaks := if flags.carriageBreaks then [(10, 10), (13, 13)] else [(10, 10)]
  if flags.dotMatchesBreak then ofSet? flags (CharSet.range 0 flags.limit)
  else ofSet? flags (CharSet.complement flags.limit ⟨breaks⟩)

def ofEscape? (flags : Flags) : Escape → Option Pattern
  | .literal codePoint isByte =>
      if !flags.unicode && isByte && 0x80 ≤ codePoint then none
      else some (literal flags codePoint)
  | .set members => ofSet? flags members
  | .boundary kind => some (.boundary kind)

def readItem? (flags : Flags) : List Char → Option (Pattern × List Char)
  | [] => none
  | '[' :: rest =>
      let (started, rest) := openClass flags rest
      (readClass? flags (2 * rest.length + 2) [] started rest).bind fun (set, rest) =>
        (ofSet? flags set).map (·, rest)
  | '\\' :: ' ' :: rest => some (literal flags 0x20, rest)
  | '\\' :: rest =>
      (readEscape? flags rest).bind fun (escape, rest) => (ofEscape? flags escape).map (·, rest)
  | '^' :: rest => some (.boundary (lineStart flags), rest)
  | '$' :: rest => some (.boundary (lineEnd flags), rest)
  | '.' :: rest => (anyChar? flags).map (·, rest)
  | c :: rest => some (literal flags c.toNat, rest)

def nestingLimit : Nat := 250

def readGroup? : (steps depth : Nat) → Flags → OpenGroup → List Char →
    Option (OpenGroup × List Char)
  | 0, _, _, _, _ => none
  | steps + 1, depth, flags, group, text =>
      match skip flags text with
      | [] => some (group, [])
      | ')' :: rest => some (group, ')' :: rest)
      | '|' :: rest => readGroup? steps depth flags group.nextBranch rest
      | '(' :: rest =>
          (readOpening? flags (skip flags rest)).bind fun (opening, rest) =>
            match opening with
            | .directive changed => readGroup? steps depth changed (group.add none) rest
            | .group inner name =>
                if nestingLimit ≤ depth || name.any group.names.contains then none
                else
                  let names := name.toList ++ group.names
                  (readGroup? steps (depth + 1) inner ⟨names, [], []⟩ rest).bind
                    fun (inside, rest) =>
                      match rest with
                      | ')' :: rest =>
                          let outer := { group with names := inside.names }
                          readGroup? steps depth flags (outer.add (some inside.close)) rest
                      | _ => none
      | text =>
          match readRepetition? flags text with
          | some none => none
          | some (some ((least, most), rest)) =>
              (group.repeatLast? least most).bind fun group => readGroup? steps depth flags group rest
          | none =>
              (readItem? flags text).bind fun (item, rest) =>
                readGroup? steps depth flags (group.add (some item)) rest

/-- Patterns that would take more room than this when written out are refused. -/
def weightLimit : Nat := 330000

def read? (text : String) : Option Pattern :=
  match readGroup? (text.length + 1) 0 {} ⟨[], [], []⟩ text.toList with
  | some (group, []) =>
      let found := group.close
      if weightLimit < found.weight then none else some found
  | _ => none

end LiterateTest.Pattern
