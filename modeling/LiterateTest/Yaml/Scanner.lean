import LiterateTest.Yaml.Scalar
import LiterateTest.Yaml.Token

/-! Text to tokens. Block collections have no brackets; they begin and end where indentation
grows and shrinks. A key is known as one only by the colon after it, so a candidate is noted
wherever a key could begin, and settled once the colon comes or can come no more. -/

namespace LiterateTest.Yaml

structure Candidate where
  number : Nat
  line : Nat
  index : Nat
  column : Nat
  /-- Whether what stands there can be nothing but a key. -/
  required : Bool

/-- How a candidate was settled: as a key, with or without a block mapping that begins there. -/
structure SettledKey where
  number : Nat
  opensMapping : Bool

structure ScanState where
  cursor : Cursor
  /-- Tokens in reverse order. -/
  tokens : List Token := []
  settled : List SettledKey := []
  nextNumber : Nat := 0
  indent : Int := -1
  outerIndents : List Int := []
  keyAllowed : Bool := true
  /-- The open candidate of each flow level, innermost first. -/
  candidates : List (Option Candidate) := [none]

namespace ScanState

def inFlow (state : ScanState) : Bool := 1 < state.candidates.length

def push (state : ScanState) (token : Token) : ScanState :=
  { state with tokens := token :: state.tokens }

def moveTo (state : ScanState) (cursor : Cursor) : ScanState :=
  { state with cursor := cursor }

def allowKey (state : ScanState) (allowed : Bool) : ScanState :=
  { state with keyAllowed := allowed }

/-! ## Indentation -/

def roll (state : ScanState) (column : Nat) (token : Token) : ScanState :=
  if state.inFlow || (column : Int) ≤ state.indent then state
  else
    { state with
      tokens := token :: state.tokens
      indent := column, outerIndents := state.indent :: state.outerIndents }

def unrollFrom (column : Int) : (indent : Int) → (outer : List Int) → List Token →
    Int × List Int × List Token
  | indent, [], tokens => (indent, [], tokens)
  | indent, next :: outer, tokens =>
      if column < indent then unrollFrom column next outer (.blockEnd :: tokens)
      else (indent, next :: outer, tokens)

def unroll (state : ScanState) (column : Int) : ScanState :=
  if state.inFlow then state
  else
    let (indent, outer, tokens) := unrollFrom column state.indent state.outerIndents state.tokens
    { state with indent := indent, outerIndents := outer, tokens := tokens }

/-! ## Candidates for keys -/

def current (state : ScanState) : Option Candidate := (state.candidates.head?).join

def setCurrent (state : ScanState) (candidate : Option Candidate) : ScanState :=
  { state with candidates := candidate :: state.candidates.drop 1 }

def drop? (state : ScanState) : Option ScanState :=
  match state.current with
  | some candidate => if candidate.required then none else some (state.setCurrent none)
  | none => some state

def note? (state : ScanState) : Option ScanState :=
  if !state.keyAllowed then some state
  else
    (drop? state).map fun state =>
      let cursor := state.cursor
      let required := !state.inFlow && state.indent == (cursor.column : Int)
      let candidate : Candidate :=
        ⟨state.nextNumber, cursor.line, cursor.index, cursor.column, required⟩
      { (state.setCurrent (some candidate)).push (.candidate state.nextNumber) with
        nextNumber := state.nextNumber + 1 }

def keyLimit : Nat := 1024

def isStale (cursor : Cursor) (candidate : Candidate) : Bool :=
  candidate.line < cursor.line || candidate.index + keyLimit < cursor.index

def dropStale? (state : ScanState) : Option ScanState :=
  let stale := state.candidates.filterMap fun candidate =>
    candidate.filter (isStale state.cursor)
  if stale.any fun candidate => candidate.required then none
  else
    some { state with candidates := state.candidates.map fun candidate =>
      candidate.filter fun found => !isStale state.cursor found }

/-! ## Blanks and comments -/

/-- Passes blanks, comments and line breaks. A tab may not stand where a key may begin. -/
def skipToToken (inFlow : Bool) : (steps : Nat) → Cursor → (keyAllowed : Bool) → Cursor × Bool
  | 0, cursor, keyAllowed => (cursor, keyAllowed)
  | steps + 1, cursor, keyAllowed =>
      match cursor.rest with
      | [] => (cursor, keyAllowed)
      | c :: _ =>
          if c == ' ' || (c == '\t' && (inFlow || !keyAllowed)) then
            skipToToken inFlow steps cursor.skip keyAllowed
          else if c == '#' then
            skipToToken inFlow steps (cursor.skipWhile fun d => !isBreak d) keyAllowed
          else if isBreak c then
            skipToToken inFlow steps cursor.skipBreak (keyAllowed || !inFlow)
          else (cursor, keyAllowed)

/-! ## Tokens -/

def skipPush (state : ScanState) (count : Nat) (token : Token) : ScanState :=
  (state.moveTo (state.cursor.skipMany count)).push token

def documentMarker? (state : ScanState) (token : Token) : Option ScanState :=
  (state.unroll (-1)).drop?.map fun state => (state.allowKey false).skipPush 3 token

def openFlow? (state : ScanState) (token : Token) : Option ScanState :=
  state.note?.map fun state =>
    ({ state with candidates := none :: state.candidates }.allowKey true).skipPush 1 token

def closeFlow? (state : ScanState) (token : Token) : Option ScanState :=
  state.drop?.map fun state =>
    let candidates := if state.inFlow then state.candidates.drop 1 else state.candidates
    ({ state with candidates := candidates }.allowKey false).skipPush 1 token

def flowEntry? (state : ScanState) : Option ScanState :=
  state.drop?.map fun state => (state.allowKey true).skipPush 1 .flowEntry

def blockEntry? (state : ScanState) : Option ScanState :=
  if !state.inFlow && !state.keyAllowed then none
  else
    (state.roll state.cursor.column .blockSequenceStart).drop?.map fun state =>
      (state.allowKey true).skipPush 1 .blockEntry

def explicitKey? (state : ScanState) : Option ScanState :=
  if !state.inFlow && !state.keyAllowed then none
  else
    (state.roll state.cursor.column .blockMappingStart).drop?.map fun state =>
      (state.allowKey !state.inFlow).skipPush 1 .key

/-- A colon settles the open candidate as a key; without one it stands for an empty key. -/
def value? (state : ScanState) : Option ScanState :=
  match state.current with
  | some candidate =>
      let opens := !state.inFlow && state.indent < (candidate.column : Int)
      let settled : SettledKey := ⟨candidate.number, opens⟩
      let opened : ScanState :=
        if opens then
          { state with
            indent := candidate.column, outerIndents := state.indent :: state.outerIndents }
        else state
      some <| (({ opened with settled := settled :: opened.settled }.setCurrent none).allowKey
        false).skipPush 1 .value
  | none =>
      if state.inFlow then some ((state.allowKey false).skipPush 1 .value)
      else if !state.keyAllowed then none
      else
        some (((state.roll state.cursor.column .blockMappingStart).allowKey true).skipPush 1 .value)

def name? (state : ScanState) (token : String → Token) : Option ScanState :=
  state.note?.bind fun state =>
    let start := state.cursor.skip
    let name := start.rest.takeWhile isNameChar
    let after := start.skipMany name.length
    let ends := atBlankOrEnd after.rest || after.rest.head?.any fun c =>
      ['?', ':', ',', ']', '\x7d', '%', '@', '\x60'].contains c
    if name.isEmpty || !ends then none
    else some (((state.allowKey false).moveTo after).push (token (String.ofList name)))

def isTagChar (c : Char) : Bool :=
  isNameChar c || [';', '/', '?', ':', '@', '&', '=', '+', '$', '.', '%', '!', '~', '*', '\'',
    '(', ')'].contains c

def tag? (state : ScanState) : Option ScanState :=
  state.note?.bind fun state =>
    let read? : Option (Token × Cursor) :=
      match state.cursor.rest with
      | '!' :: '<' :: rest =>
          (Text.splitAtFirst? '>' rest).bind fun (name, _) =>
            if name.isEmpty || !name.all fun c => isTagChar c || c == ',' || c == '[' || c == ']'
            then none
            else some (.tag "" (String.ofList name), state.cursor.skipMany (name.length + 3))
      | '!' :: rest =>
          let name := rest.takeWhile isNameChar
          match rest.drop name.length with
          | '!' :: tail =>
              let found := tail.takeWhile isTagChar
              if found.isEmpty then none
              else
                some (.tag ("!" ++ String.ofList name ++ "!") (String.ofList found),
                  state.cursor.skipMany (name.length + found.length + 2))
          | _ =>
              let found := rest.takeWhile isTagChar
              some (.tag "!" (String.ofList found), state.cursor.skipMany (found.length + 1))
      | _ => none
    read?.bind fun (token, after) =>
      let ends := atBlankOrEnd after.rest || (state.inFlow && after.rest.head? == some ',')
      if ends then some (((state.allowKey false).moveTo after).push token) else none

def blockScalar? (state : ScanState) (folded : Bool) : Option ScanState :=
  state.drop?.bind fun state =>
    (readBlock? folded state.indent state.cursor.skip).map fun (text, after) =>
      let style := if folded then ScalarStyle.folded else .literal
      ((state.allowKey true).moveTo after).push (.scalar style (String.ofList text))

def quotedScalar? (state : ScanState) (single : Bool) : Option ScanState :=
  state.note?.bind fun state =>
    (readQuoted? single (state.cursor.rest.length + 1) [] state.cursor.skip).map fun (text, after) =>
      let style := if single then ScalarStyle.singleQuoted else .doubleQuoted
      ((state.allowKey false).moveTo after).push (.scalar style (String.ofList text))

def plainScalar? (state : ScanState) : Option ScanState :=
  state.note?.bind fun state =>
    let indent := (state.indent + 1).toNat
    (readPlain? state.inFlow indent (state.cursor.rest.length + 1) [] {} state.cursor).map
      fun (text, endsWithBreak, after) =>
        ((state.allowKey endsWithBreak).moveTo after).push (.scalar .plain (String.ofList text))

def directive? (state : ScanState) : Option ScanState :=
  (state.unroll (-1)).drop?.bind fun state =>
    let line := state.cursor.rest.takeWhile fun c => !isBreak c
    let content := line.takeWhile (· != '#')
    let words := (Text.split (String.ofList (content.map fun c => if c == '\t' then ' ' else c)) " ").filter
      (!·.isEmpty)
    let passed := (state.allowKey false).moveTo (state.cursor.skipMany line.length).skipBreak
    match words with
    | "%YAML" :: version :: [] =>
        match (Text.split version ".").map String.toNat? with
        | [some major, some minor] => some (passed.push (.versionDirective major minor))
        | _ => none
    | "%YAML" :: _ => none
    | "%TAG" :: handle :: lead :: [] => some (passed.push (.tagDirective handle lead))
    | "%TAG" :: _ => none
    | name :: _ => if name == "%" then none else some passed
    | [] => none

def startsPlain (state : ScanState) (c : Char) (rest : List Char) : Bool :=
  let indicator := ['-', '?', ':', ',', '[', ']', '\x7b', '\x7d', '#', '&', '*', '!', '|', '>',
    '\'', '"', '%', '@', '\x60'].contains c
  (!indicator && !isBlank c && !isBreak c)
    || (c == '-' && !(rest.head?.any isBlank))
    || (!state.inFlow && (c == '?' || c == ':') && !atBlankOrEnd rest)

def token? (state : ScanState) (c : Char) (rest : List Char) : Option ScanState :=
  let blankNext := atBlankOrEnd rest
  if state.cursor.column == 0 && c == '%' then state.directive?
  else if state.cursor.atMarker '-' then state.documentMarker? .documentStart
  else if state.cursor.atMarker '.' then state.documentMarker? .documentEnd
  else if c == '[' then state.openFlow? .flowSequenceStart
  else if c == '\x7b' then state.openFlow? .flowMappingStart
  else if c == ']' then state.closeFlow? .flowSequenceEnd
  else if c == '\x7d' then state.closeFlow? .flowMappingEnd
  else if c == ',' then state.flowEntry?
  else if c == '-' && blankNext then state.blockEntry?
  else if c == '?' && (state.inFlow || blankNext) then state.explicitKey?
  else if c == ':' && (state.inFlow || blankNext) then state.value?
  else if c == '*' then state.name? .alias
  else if c == '&' then state.name? .anchor
  else if c == '!' then state.tag?
  else if c == '|' && !state.inFlow then state.blockScalar? false
  else if c == '>' && !state.inFlow then state.blockScalar? true
  else if c == '\'' then state.quotedScalar? true
  else if c == '"' then state.quotedScalar? false
  else if state.startsPlain c rest then state.plainScalar?
  else none

def finish? (state : ScanState) : Option ScanState :=
  (state.unroll (-1)).drop?

/-- Whether a candidate keeps the tokens from its place on from being used before it is settled. -/
def holdsBack (cursor : Cursor) (candidate : Candidate) : Bool :=
  candidate.required || !isStale cursor candidate

def cut (state : ScanState) : ScanState :=
  let open? := state.candidates.filterMap fun candidate =>
    candidate.filter (holdsBack state.cursor)
  match (open?.map Candidate.number).min? with
  | none => state
  | some first =>
      { state with tokens := (state.tokens.dropWhile (· != .candidate first)).drop 1 }

/-- Reads tokens to the end of the text, or as far as tokens can be read; the flag tells whether the
end is reached. Each token takes at least one character. -/
def run : (steps : Nat) → ScanState → ScanState × Bool
  | 0, state => (state.cut, false)
  | steps + 1, state =>
      let (cursor, keyAllowed) :=
        skipToToken state.inFlow (state.cursor.rest.length + 1) state.cursor state.keyAllowed
      match dropStale? { state with cursor := cursor, keyAllowed := keyAllowed } with
      | none => (state.cut, false)
      | some ready =>
          match cursor.rest with
          | [] =>
              match ready.finish? with
              | none => (state.cut, false)
              | some final => (final, true)
          | c :: rest =>
              match (ready.unroll (cursor.column : Int)).token? c rest with
              | none => (state.cut, false)
              | some next => run steps next

def result (state : ScanState) : List Token :=
  state.tokens.reverse.flatMap fun token =>
    match token with
    | .candidate number =>
        match state.settled.find? fun settled => settled.number == number with
        | some settled => if settled.opensMapping then [.blockMappingStart, .key] else [.key]
        | none => []
    | token => [token]

end ScanState

def tokens (text : String) : List Token × Bool :=
  let cursor := Cursor.ofText text
  if cursor.rest.all isAllowed then
    let (state, whole) := ScanState.run (cursor.rest.length + 2) { cursor }
    (state.result, whole)
  else ([], false)

end LiterateTest.Yaml
