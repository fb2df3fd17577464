import LiterateTest.Shell.Basic
import LiterateTest.Shell.Escape

/-! The tokens of a script. -/

namespace LiterateTest.Shell

inductive Token where
  | word (word : Word)
  | operator (text : String)
  | redirection (descriptor : Nat) (kind : RedirectionKind)
  | lineEnd
  deriving DecidableEq, Repr

structure PlacedToken where
  line : Nat
  token : Token
  deriving DecidableEq, Repr

namespace Token

def text : Token → String
  | word pieces => (Word.plain? pieces).getD "word"
  | operator text => text
  | redirection _ _ => ">"
  | lineEnd => "newline"

/-! ## Words -/

inductive Place where
  | bare
  | betweenQuotes
  /-- In a text of several lines. -/
  | inText
  deriving DecidableEq, Repr

def endsWord (c : Char) : Bool := " \t\n;&|<>()".toList.contains c

def isDigit (c : Char) : Bool := '0' ≤ c && c ≤ '9'

/-- Splits at the `)` that closes a script or formula. `mark` is the quote that is open. -/
def upToClose? : (depth : Nat) → (mark : Option Char) → List Char →
    Option (List Char × List Char)
  | _, _, [] => none
  | depth, mark, '\\' :: c :: rest =>
      (upToClose? depth mark rest).map fun (inside, after) => ('\\' :: c :: inside, after)
  | depth, some mark, c :: rest =>
      let next := if c = mark then none else some mark
      (upToClose? depth next rest).map fun (inside, after) => (c :: inside, after)
  | depth, none, c :: rest =>
      if c = ')' && depth = 0 then some ([], rest)
      else
        let next := if c = '(' then depth + 1 else if c = ')' then depth - 1 else depth
        let mark := if c = '"' || c = '\'' then some c else none
        (upToClose? next mark rest).map fun (inside, after) => (c :: inside, after)

/-- Splits at a mark, before which a backslash may stand to take it as it is. -/
def upToMark? (mark : Char) : List Char → Option (List Char × List Char)
  | [] => none
  | '\\' :: c :: rest =>
      (upToMark? mark rest).map fun (inside, after) =>
        (if c = mark then c :: inside else '\\' :: c :: inside, after)
  | c :: rest =>
      if c = mark then some ([], rest)
      else (upToMark? mark rest).map fun (inside, after) => (c :: inside, after)

def isSpecialName (c : Char) : Bool := "?$#@*!-0123456789".toList.contains c

def splitName : List Char → String × String
  | [] => ("", "")
  | c :: rest =>
      if Text.isWordStart c then
        (String.ofList (c :: rest.takeWhile Text.isWordRest),
          String.ofList (rest.dropWhile Text.isWordRest))
      else if c = '#' && !rest.isEmpty then
        (String.ofList rest, "#")
      else (c.toString, String.ofList rest)

def readDollar? (quoted : Bool) (rest : List Char) :
    Except ScriptFault (Option (Piece × List Char)) :=
  match rest with
  | '(' :: '(' :: inner =>
      match upToClose? 0 none inner with
      | some (formula, ')' :: after) =>
          .ok (some (.number quoted (String.ofList formula), after))
      | _ =>
          match upToClose? 0 none ('(' :: inner) with
          | some (script, after) => .ok (some (.output quoted (String.ofList script), after))
          | none => .error (.unclosed ')')
  | '(' :: inner =>
      match upToClose? 0 none inner with
      | some (script, after) => .ok (some (.output quoted (String.ofList script), after))
      | none => .error (.unclosed ')')
  | '{' :: inner =>
      match upToMark? '\x7d' inner with
      | some (text, after) =>
          let (name, operation) := splitName text
          .ok (some (.variable quoted name operation, after))
      | none => .error (.unclosed '\x7d')
  | c :: after =>
      if Text.isWordStart c then
        let name := String.ofList (c :: after.takeWhile Text.isWordRest)
        .ok (some (.variable quoted name "", after.dropWhile Text.isWordRest))
      else if isSpecialName c then .ok (some (.variable quoted c.toString "", after))
      else .ok none
  | [] => .ok none

def isEscapable (place : Place) (c : Char) : Bool :=
  match place with
  | .bare => true
  | .betweenQuotes => "$\x60\"\\".toList.contains c
  | .inText => "$\x60\\".toList.contains c

def readPieces : (budget : Nat) → Place → List Char → Except ScriptFault (Word × List Char)
  | 0, _, rest => .ok ([], rest)
  | budget + 1, place, text =>
      let quoted := place != .bare
      match text with
      | [] =>
          match place with
          | .betweenQuotes => .error (.unclosed '"')
          | _ => .ok ([], [])
      | '\\' :: '\n' :: rest => readPieces budget place rest
      | '\\' :: c :: rest =>
          if isEscapable place c then do
            let (pieces, after) ← readPieces budget place rest
            return (Word.put true c pieces, after)
          else do
            let (pieces, after) ← readPieces budget place (c :: rest)
            return (Word.put quoted '\\' pieces, after)
      | '$' :: '\'' :: rest =>
          if place = .bare then
            match upToMark? '\'' rest with
            | none => .error (.unclosed '\'')
            | some (inside, after) => do
                let (pieces, after) ← readPieces budget place after
                let bytes := (Escape.writeFrom Escape.format 0 inside).1
                return (.text true (Text.decodeUtf8Lossy bytes) :: pieces, after)
          else do
            let (pieces, after) ← readPieces budget place ('\'' :: rest)
            return (Word.put quoted '$' pieces, after)
      | '$' :: rest => do
          match ← readDollar? quoted rest with
          | some (piece, after) =>
              let (pieces, after) ← readPieces budget place after
              return (piece :: pieces, after)
          | none =>
              let (pieces, after) ← readPieces budget place rest
              return (Word.put quoted '$' pieces, after)
      | '\x60' :: rest =>
          match upToMark? '\x60' rest with
          | none => .error (.unclosed '\x60')
          | some (script, after) => do
              let (pieces, after) ← readPieces budget place after
              return (.output quoted (String.ofList script) :: pieces, after)
      | c :: rest =>
          match place with
          | .bare =>
              if endsWord c then .ok ([], text)
              else if c = '\'' then
                match Text.splitAtFirst? '\'' rest with
                | none => .error (.unclosed '\'')
                | some (inside, after) => do
                    let (pieces, after) ← readPieces budget place after
                    return (.text true (String.ofList inside) :: pieces, after)
              else if c = '"' then do
                let (inside, after) ← readPieces budget .betweenQuotes rest
                let (pieces, after) ← readPieces budget place after
                return ((if inside.isEmpty then [.text true ""] else inside) ++ pieces, after)
              else do
                let (pieces, after) ← readPieces budget place rest
                return (Word.put false c pieces, after)
          | .betweenQuotes =>
              if c = '"' then .ok ([], rest)
              else do
                let (pieces, after) ← readPieces budget place rest
                return (Word.put true c pieces, after)
          | .inText => do
              let (pieces, after) ← readPieces budget place rest
              return (Word.put true c pieces, after)

/-! ## Tokens -/

def operators : List String := ["&&", "||", ";;", ";", "|", "&", "(", ")"]

def redirections : List (String × Nat × RedirectionKind) :=
  [("&>>", 1, .appendBoth), ("&>", 1, .writeBoth), (">>", 1, .append), (">&", 1, .duplicate),
    (">|", 1, .write), (">", 1, .write), ("<", 0, .read)]

def leadOf? (text : List Char) : List String → Option (String × List Char)
  | [] => none
  | lead :: leads =>
      match Text.stripLead? lead.toList text with
      | some rest => some (lead, rest)
      | none => leadOf? text leads

def redirection? (text : List Char) : Option (Token × List Char) :=
  let digits := text.takeWhile isDigit
  let rest := text.dropWhile isDigit
  match leadOf? rest (redirections.map Prod.fst) with
  | none => none
  | some (lead, after) =>
      match redirections.find? fun entry => entry.1 == lead with
      | none => none
      | some (_, descriptor, kind) =>
          match digits with
          | [] => some (.redirection descriptor kind, after)
          | _ =>
              if lead.startsWith "&" then none
              else some (.redirection ((String.ofList digits).toNat?.getD 0) kind, after)

def linesUpTo (mark : List Char) (dropTabs : Bool) : List (List Char) →
    List Char × List Char
  | [] => ([], [])
  | line :: rest =>
      let kept := if dropTabs then line.dropWhile (· == '\t') else line
      if Text.dropLineBreak kept = mark then ([], rest.flatten)
      else
        let (inside, after) := linesUpTo mark dropTabs rest
        (kept ++ inside, after)

/-- Reads a text that is given in the script after the line on which it is asked for: its word,
and the script without it. -/
def readHereText (dropTabs : Bool) (script : List Char) :
    Except ScriptFault (Word × List Char) := do
  let start := script.dropWhile fun c => c == ' ' || c == '\t'
  let (marks, rest) ← readPieces (start.length + 1) .bare start
  let plain := marks.all fun piece => piece matches .text false _
  let mark := marks.flatMap fun piece =>
    match piece with
    | .text _ text => text.toList
    | _ => []
  let line := rest.takeWhile (· != '\n')
  let (inside, after) :=
    linesUpTo mark dropTabs (Text.linesWithBreaks ((rest.dropWhile (· != '\n')).drop 1))
  let pieces ←
    if plain then (readPieces (inside.length + 1) .inText inside).map Prod.fst
    else .ok [.text true (String.ofList inside)]
  return (pieces, line ++ '\n' :: after)

def readFrom : (budget line : Nat) → List Char → List PlacedToken × Option ScriptFault
  | 0, _, _ => ([], none)
  | budget + 1, line, text =>
      let add := fun (token : Token) (rest : List Char) =>
        let taken := text.take (text.length - rest.length)
        let next := line + taken.count '\n'
        let (tokens, fault) := readFrom budget next rest
        ({ line, token : PlacedToken } :: tokens, fault)
      match text with
      | [] => ([], none)
      | '\\' :: '\n' :: rest => readFrom budget (line + 1) rest
      | c :: rest =>
          if c = ' ' || c = '\t' then readFrom budget line rest
          else if c = '#' then readFrom budget line (rest.dropWhile (· != '\n'))
          else if c = '\n' then add .lineEnd rest
          else
            match Text.stripLead? ['<', '<', '<'] text with
            | some after => add (.redirection 0 .hereLine) after
            | none =>
                match Text.stripLead? ['<', '<'] text with
                | some after =>
                    let dropTabs := after.head? == some '-'
                    match readHereText dropTabs (if dropTabs then after.drop 1 else after) with
                    | .error fault => ([], some fault)
                    | .ok (pieces, rest) =>
                        let (tokens, fault) := readFrom budget line rest
                        ({ line, token := .redirection 0 .hereText : PlacedToken }
                          :: { line, token := .word pieces : PlacedToken } :: tokens, fault)
                | none =>
                    match redirection? text with
                    | some (token, after) => add token after
                    | none =>
                        match leadOf? text operators with
                        | some (lead, after) => add (.operator lead) after
                        | none =>
                            match readPieces (text.length + 1) .bare text with
                            | .error fault => ([], some fault)
                            | .ok (pieces, after) => add (.word pieces) after

def ofScript (script : String) : List PlacedToken × Option ScriptFault :=
  readFrom (script.length + 1) 1 script.toList

example : (readPieces 9 .bare "a'b'c d".toList).toOption
    = some ([.text false "a", .text true "b", .text false "c"], " d".toList) := by decide +kernel

end Token

end LiterateTest.Shell
