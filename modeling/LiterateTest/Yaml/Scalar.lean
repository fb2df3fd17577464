import LiterateTest.Number.Reading
import LiterateTest.Yaml.Cursor

/-! The text of scalars. Line breaks inside plain and quoted scalars are folded: a single one
becomes a space, and of several the first is dropped. Block scalars keep their breaks or fold
them, by their style.

Each loop below takes at least one character in a step; the number of steps bounds it. -/

namespace LiterateTest.Yaml

structure Gap where
  blanks : List Char := []
  leadingBreak : List Char := []
  trailingBreaks : List Char := []
  hasBreak : Bool := false

def Gap.text (gap : Gap) : List Char :=
  if !gap.hasBreak then gap.blanks
  else if gap.leadingBreak == ['\n'] then
    if gap.trailingBreaks.isEmpty then [' '] else gap.trailingBreaks
  else gap.leadingBreak ++ gap.trailingBreaks

/-- Collects blanks and breaks. A tab that stands for indentation below `indent` is refused. -/
def takeGap? (indent : Nat) (refuseTabs : Bool) :
    (steps : Nat) → Gap → Cursor → Option (Gap × Cursor)
  | 0, gap, cursor => some (gap, cursor)
  | steps + 1, gap, cursor =>
      match cursor.rest with
      | [] => some (gap, cursor)
      | c :: _ =>
          if isBlank c then
            if refuseTabs && gap.hasBreak && cursor.column < indent && c == '\t' then none
            else if gap.hasBreak then takeGap? indent refuseTabs steps gap cursor.skip
            else
              takeGap? indent refuseTabs steps { gap with blanks := gap.blanks ++ [c] } cursor.skip
          else if isBreak c then
            let found := cursor.breakText
            let longer :=
              if gap.hasBreak then { gap with trailingBreaks := gap.trailingBreaks ++ found }
              else { gap with blanks := [], leadingBreak := found, hasBreak := true }
            takeGap? indent refuseTabs steps longer cursor.skipBreak
          else some (gap, cursor)

/-! ## Plain scalars -/

def isFlowIndicator (c : Char) : Bool :=
  c == ',' || c == '[' || c == ']' || c == '\x7b' || c == '\x7d'

/-- The characters of a plain scalar up to the next blank, break or indicator. In a flow
collection a colon directly before an indicator is refused. -/
def takePlain? (inFlow : Bool) : (read : List Char) → Cursor → (rest : List Char) →
    Option (List Char × Cursor)
  | read, cursor, [] => some (read.reverse, cursor)
  | read, cursor, c :: rest =>
      if atBlankOrEnd (c :: rest) then some (read.reverse, cursor)
      else if inFlow && c == ':' && rest.head?.any fun d => isFlowIndicator d || d == '?' then none
      else if (c == ':' && atBlankOrEnd rest) || (inFlow && isFlowIndicator c) then
        some (read.reverse, cursor)
      else takePlain? inFlow (c :: read) cursor.skip rest

def readPlain? (inFlow : Bool) (indent : Nat) :
    (steps : Nat) → (read : List Char) → Gap → Cursor → Option (List Char × Bool × Cursor)
  | 0, _, _, _ => none
  | steps + 1, read, gap, cursor =>
      if cursor.atDocumentMarker || cursor.rest.head? == some '#' then
        some (read, gap.hasBreak, cursor)
      else
        (takePlain? inFlow [] cursor cursor.rest).bind fun (chars, after) =>
          let longer := if chars.isEmpty then read else read ++ gap.text ++ chars
          let open_ := if chars.isEmpty then gap else {}
          match after.rest with
          | [] => some (longer, open_.hasBreak, after)
          | c :: _ =>
              if !(isBlank c || isBreak c) then some (longer, open_.hasBreak, after)
              else
                (takeGap? indent true after.rest.length open_ after).bind fun (gap, next) =>
                  if !inFlow && next.column < indent then some (longer, gap.hasBreak, next)
                  else readPlain? inFlow indent steps longer gap next

/-! ## Quoted scalars -/

def escaped? : Char → Option Char
  | '0' => some '\x00'
  | 'a' => some '\x07'
  | 'b' => some '\x08'
  | 't' => some '\t'
  | '\t' => some '\t'
  | 'n' => some '\n'
  | 'v' => some '\x0b'
  | 'f' => some '\x0c'
  | 'r' => some '\r'
  | 'e' => some '\x1b'
  | ' ' => some ' '
  | '"' => some '"'
  | '/' => some '/'
  | '\\' => some '\\'
  | 'N' => some '\u0085'
  | '_' => some '\u00a0'
  | 'L' => some '\u2028'
  | 'P' => some '\u2029'
  | _ => none

def escapeDigits? : Char → Option Nat
  | 'x' => some 2
  | 'u' => some 4
  | 'U' => some 8
  | _ => none

def readEscape? (text : List Char) : Option (Char × Nat) :=
  match text with
  | [] => none
  | c :: rest =>
      match escapeDigits? c with
      | some count =>
          let digits := rest.take count
          let value := Integer.ofDigits 16 digits
          if digits.length < count || !digits.all Integer.isHexDigit
              || (0xD800 ≤ value && value ≤ 0xDFFF) || 0x10FFFF < value then none
          else some (Char.ofNat value, count + 1)
      | none => (escaped? c).map (·, 1)

/-- The characters of a quoted scalar up to a blank, a break or the closing quote. The flag
says whether an escaped line break ended them. -/
def takeQuoted? (single : Bool) : (steps : Nat) → (read : List Char) → Cursor →
    Option (List Char × Bool × Cursor)
  | 0, _, _ => none
  | steps + 1, read, cursor =>
      match cursor.rest with
      | [] => some (read.reverse, false, cursor)
      | c :: rest =>
          if atBlankOrEnd (c :: rest) then some (read.reverse, false, cursor)
          else if single then
            if c == '\'' then
              if rest.head? == some '\'' then
                takeQuoted? single steps ('\'' :: read) (cursor.skipMany 2)
              else some (read.reverse, false, cursor)
            else takeQuoted? single steps (c :: read) cursor.skip
          else if c == '"' then some (read.reverse, false, cursor)
          else if c == '\\' then
            if rest.head?.any isBreak then some (read.reverse, true, cursor.skip.skipBreak)
            else
              (readEscape? rest).bind fun (found, length) =>
                takeQuoted? single steps (found :: read) (cursor.skipMany (length + 1))
          else takeQuoted? single steps (c :: read) cursor.skip

def readQuoted? (single : Bool) : (steps : Nat) → (read : List Char) → Cursor →
    Option (List Char × Cursor)
  | 0, _, _ => none
  | steps + 1, read, cursor =>
      if cursor.atDocumentMarker || cursor.rest.isEmpty then none
      else
        (takeQuoted? single (cursor.rest.length + 1) [] cursor).bind
          fun (chars, breakEscaped, after) =>
            let longer := read ++ chars
            let quote := if single then '\'' else '"'
            if !breakEscaped && after.rest.head? == some quote then some (longer, after.skip)
            else
              (takeGap? 0 false after.rest.length { hasBreak := breakEscaped } after).bind
                fun (gap, next) => readQuoted? single steps (longer ++ gap.text) next

/-! ## Block scalars -/

inductive Chomping where
  | strip | clip | keep

def readHeader? (cursor : Cursor) : Option (Chomping × Option Nat × Cursor) :=
  let chomping? (c : Char) : Option Chomping :=
    if c == '+' then some .keep else if c == '-' then some .strip else none
  let digit? (c : Char) : Option Nat :=
    if c.isDigit then some (Integer.digitValue c) else none
  match cursor.rest with
  | c :: rest =>
      match chomping? c, digit? c with
      | some chomping, _ =>
          match rest.head?.bind digit? with
          | some 0 => none
          | some increment => some (chomping, some increment, cursor.skipMany 2)
          | none => some (chomping, none, cursor.skip)
      | none, some 0 => none
      | none, some increment =>
          match rest.head?.bind chomping? with
          | some chomping => some (chomping, some increment, cursor.skipMany 2)
          | none => some (.clip, some increment, cursor.skip)
      | none, none => some (.clip, none, cursor)
  | [] => some (.clip, none, cursor)

/-- Passes indentation and empty lines. Where the indentation is not known yet, all leading
spaces are passed and the deepest column is remembered. -/
def takeBreaks? (indent : Option Nat) : (steps : Nat) → (deepest : Nat) → (breaks : List Char) →
    Cursor → Option (Nat × List Char × Cursor)
  | 0, deepest, breaks, cursor => some (deepest, breaks, cursor)
  | steps + 1, deepest, breaks, cursor =>
      let spaces := (cursor.rest.takeWhile (· == ' ')).length
      let passed := match indent with
        | none => spaces
        | some limit => min spaces (limit - cursor.column)
      let after := cursor.skipMany passed
      let deepest := max deepest after.column
      let belowIndent := indent.all fun limit => after.column < limit
      match after.rest with
      | [] => some (deepest, breaks, after)
      | c :: _ =>
          if belowIndent && c == '\t' then none
          else if isBreak c then
            takeBreaks? indent steps deepest (breaks ++ after.breakText) after.skipBreak
          else some (deepest, breaks, after)

structure BlockText where
  text : List Char := []
  leadingBreak : List Char := []
  trailingBreaks : List Char := []
  leadingBlank : Bool := false

def BlockText.finish (block : BlockText) : Chomping → List Char
  | .strip => block.text
  | .clip => block.text ++ block.leadingBreak
  | .keep => block.text ++ block.leadingBreak ++ block.trailingBreaks

def readLines? (folded : Bool) (indent : Nat) : (steps : Nat) → BlockText → Cursor →
    Option (BlockText × Cursor)
  | 0, _, _ => none
  | steps + 1, block, cursor =>
      match cursor.rest with
      | [] => some (block, cursor)
      | c :: _ =>
          if cursor.column != indent then some (block, cursor)
          else
            let startsBlank := isBlank c
            let joined :=
              if folded && block.leadingBreak == ['\n'] && !block.leadingBlank && !startsBlank then
                block.text ++ (if block.trailingBreaks.isEmpty then [' '] else [])
              else block.text ++ block.leadingBreak
            let line := cursor.rest.takeWhile fun d => !isBreak d
            let after := cursor.skipMany line.length
            let next := after.skipBreak
            (takeBreaks? (some indent) next.rest.length 0 [] next).bind fun (_, breaks, next) =>
              readLines? folded indent steps
                { text := joined ++ block.trailingBreaks ++ line
                  leadingBreak := after.breakText
                  trailingBreaks := breaks
                  leadingBlank := startsBlank }
                next

def readBlock? (folded : Bool) (parent : Int) (cursor : Cursor) :
    Option (List Char × Cursor) := do
  let (chomping, increment, afterHeader) ← readHeader? cursor
  let blanksPassed := afterHeader.skipWhile isBlank
  let lineEnd :=
    if blanksPassed.rest.head? == some '#' then blanksPassed.skipWhile fun c => !isBreak c
    else blanksPassed
  if !atBreakOrEnd lineEnd.rest then none
  else
    let start := lineEnd.skipBreak
    let given := increment.map fun amount => if 0 ≤ parent then parent.toNat + amount else amount
    let (deepest, breaks, first) ← takeBreaks? given (start.rest.length + 1) 0 [] start
    let indent := given.getD (max 1 (max deepest (parent + 1).toNat))
    let (block, after) ←
      readLines? folded indent (first.rest.length + 1) { trailingBreaks := breaks } first
    some (block.finish chomping, after)

end LiterateTest.Yaml
