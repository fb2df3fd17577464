import LiterateTest.Shell.Token

/-! The statements of a script. -/

namespace LiterateTest.Shell

namespace Statement

abbrev PlacedFault := Nat × ScriptFault

abbrev Reading (α : Type) := α × List PlacedToken

def unexpectedNext : List PlacedToken → PlacedFault
  | [] => (1, .unexpectedEnd)
  | placed :: _ => (placed.line, .unexpected placed.token.text)

def dropLineEnds : List PlacedToken → List PlacedToken
  | placed :: rest => if placed.token = .lineEnd then dropLineEnds rest else placed :: rest
  | [] => []

def nextPlain? : List PlacedToken → Option String
  | placed :: _ =>
      match placed.token with
      | .word pieces => Word.plain? pieces
      | _ => none
  | [] => none

def nextOperator? : List PlacedToken → Option String
  | placed :: _ =>
      match placed.token with
      | .operator text => some text
      | _ => none
  | [] => none

def nextLine : List PlacedToken → Nat
  | placed :: _ => placed.line
  | [] => 1

def expectWord (wanted : String) (tokens : List PlacedToken) : Except PlacedFault (Reading Unit) :=
  if nextPlain? tokens = some wanted then .ok ((), tokens.drop 1)
  else .error (unexpectedNext tokens)

def expectOperator (wanted : String) (tokens : List PlacedToken) :
    Except PlacedFault (Reading Unit) :=
  if nextOperator? tokens = some wanted then .ok ((), tokens.drop 1)
  else .error (unexpectedNext tokens)

/-! ## Commands -/

structure CommandParts where
  assignments : List (String × Word) := []
  words : List Word := []
  redirections : List Redirection := []

def assignment? : Word → Option (String × Word)
  | .text false text :: rest =>
      match Text.splitAtFirst? '=' text.toList with
      | none => none
      | some (name, value) =>
          if name.head?.any Text.isWordStart && name.all Text.isWordRest then
            let first := if value.isEmpty then [] else [.text false (String.ofList value)]
            some (String.ofList name, first ++ rest)
          else none
  | _ => none

def readParts (wordsToo : Bool) (parts : CommandParts) : List PlacedToken →
    Except PlacedFault (Reading CommandParts)
  | [] => .ok (parts, [])
  | placed :: rest =>
      match placed.token with
      | .redirection descriptor kind =>
          match rest with
          | ⟨_, .word pieces⟩ :: others =>
              let added := parts.redirections ++ [{ descriptor, kind, word := pieces }]
              readParts wordsToo { parts with redirections := added } others
          | _ => .error (unexpectedNext rest)
      | .word pieces =>
          if !wordsToo then .ok (parts, placed :: rest)
          else
            match (if parts.words.isEmpty then assignment? pieces else none) with
            | some entry =>
                readParts wordsToo { parts with assignments := parts.assignments ++ [entry] } rest
            | none => readParts wordsToo { parts with words := parts.words ++ [pieces] } rest
      | _ => .ok (parts, placed :: rest)

def readCommand (tokens : List PlacedToken) : Except PlacedFault (Reading Statement) := do
  let (parts, rest) ← readParts true {} tokens
  if parts.assignments.isEmpty && parts.words.isEmpty && parts.redirections.isEmpty then
    .error (unexpectedNext tokens)
  else
    .ok (command (nextLine tokens) parts.assignments parts.words parts.redirections, rest)

def readRedirections (inner : Statement) (tokens : List PlacedToken) :
    Except PlacedFault (Reading Statement) := do
  let (parts, rest) ← readParts false {} tokens
  if parts.redirections.isEmpty then .ok (inner, rest)
  else .ok (redirected (nextLine tokens) inner parts.redirections, rest)

def readWords : List PlacedToken → List Word × List PlacedToken
  | placed :: rest =>
      match placed.token with
      | .word pieces =>
          let (words, after) := readWords rest
          (pieces :: words, after)
      | _ => ([], placed :: rest)
  | [] => ([], [])

def dropSeparator (tokens : List PlacedToken) : List PlacedToken :=
  if nextOperator? tokens = some ";" then dropLineEnds (tokens.drop 1) else dropLineEnds tokens

/-! ## Lists of statements -/

def closingWords : List String := ["then", "do", "done", "fi", "else", "elif", "esac", "\x7d"]

def isListEnd (tokens : List PlacedToken) : Bool :=
  tokens.isEmpty || nextOperator? tokens == some ")" || nextOperator? tokens == some ";;"
    || (nextPlain? tokens).any closingWords.contains

mutual
def readList : (budget : Nat) → (manyLines : Bool) → List PlacedToken →
    Except PlacedFault (Reading Statement)
  | 0, _, tokens => .error (unexpectedNext tokens)
  | budget + 1, manyLines, tokens => do
      let (first, rest) ← readChain budget (if manyLines then dropLineEnds tokens else tokens)
      let separated := nextOperator? rest == some ";" || nextOperator? rest == some "&"
      let atLineEnd := rest.head?.any fun placed => placed.token == .lineEnd
      let next :=
        if manyLines then dropLineEnds (if separated then rest.drop 1 else rest)
        else if separated then rest.drop 1 else rest
      let ends :=
        isListEnd next || (!separated && !(manyLines && atLineEnd))
          || (!manyLines && next.head?.any fun placed => placed.token == .lineEnd)
      if ends then .ok (first, next)
      else
        let (others, after) ← readList budget manyLines next
        .ok (sequence first others, after)

def readChain : (budget : Nat) → List PlacedToken → Except PlacedFault (Reading Statement)
  | 0, tokens => .error (unexpectedNext tokens)
  | budget + 1, tokens => do
      let (first, rest) ← readPipeline budget tokens
      continueChain budget first rest

def continueChain : (budget : Nat) → (left : Statement) → List PlacedToken →
    Except PlacedFault (Reading Statement)
  | 0, left, tokens => .ok (left, tokens)
  | budget + 1, left, tokens =>
      match nextOperator? tokens with
      | some "&&" => do
          let (right, rest) ← readPipeline budget (dropLineEnds (tokens.drop 1))
          continueChain budget (both left right) rest
      | some "||" => do
          let (right, rest) ← readPipeline budget (dropLineEnds (tokens.drop 1))
          continueChain budget (either left right) rest
      | _ => .ok (left, tokens)

def readPipeline : (budget : Nat) → List PlacedToken → Except PlacedFault (Reading Statement)
  | 0, tokens => .error (unexpectedNext tokens)
  | budget + 1, tokens =>
      if nextPlain? tokens = some "!" then do
        let (inner, rest) ← readPipeline budget (tokens.drop 1)
        .ok (negation inner, rest)
      else do
        let (first, rest) ← readStatement budget tokens
        if nextOperator? rest = some "|" then
          let (others, after) ← readPipeline budget (dropLineEnds (rest.drop 1))
          .ok (pipe first others, after)
        else .ok (first, rest)

def readStatement : (budget : Nat) → List PlacedToken → Except PlacedFault (Reading Statement)
  | 0, tokens => .error (unexpectedNext tokens)
  | budget + 1, tokens =>
      if nextOperator? tokens = some "(" then do
        let (inner, rest) ← readList budget true (tokens.drop 1)
        let (_, rest) ← expectOperator ")" rest
        readRedirections (subshell inner) rest
      else
        match nextPlain? tokens with
        | some "\x7b" => do
            let (inner, rest) ← readList budget true (tokens.drop 1)
            let (_, rest) ← expectWord "\x7d" rest
            readRedirections inner rest
        | some "if" => do
            let (inner, rest) ← readChoice budget (tokens.drop 1)
            readRedirections inner rest
        | some "while" => do
            let (inner, rest) ← readLoop budget true (tokens.drop 1)
            readRedirections inner rest
        | some "until" => do
            let (inner, rest) ← readLoop budget false (tokens.drop 1)
            readRedirections inner rest
        | some "for" => do
            let (inner, rest) ← readFor budget (tokens.drop 1)
            readRedirections inner rest
        | some "case" =>
            match tokens.drop 1 with
            | ⟨_, .word pieces⟩ :: rest => do
                let (_, rest) ← expectWord "in" (dropLineEnds rest)
                let (inner, rest) ← readCases budget pieces (dropLineEnds rest)
                readRedirections inner rest
            | rest => .error (unexpectedNext rest)
        | some name =>
            if closingWords.contains name then .error (unexpectedNext tokens)
            else if nextOperator? (tokens.drop 1) = some "(" then do
              let (_, rest) ← expectOperator ")" (tokens.drop 2)
              let (body, rest) ← readStatement budget (dropLineEnds rest)
              .ok (function name body, rest)
            else readCommand tokens
        | none => readCommand tokens

def readChoice : (budget : Nat) → List PlacedToken → Except PlacedFault (Reading Statement)
  | 0, tokens => .error (unexpectedNext tokens)
  | budget + 1, tokens => do
      let (condition, rest) ← readList budget true tokens
      let (_, rest) ← expectWord "then" rest
      let (yes, rest) ← readList budget true rest
      match nextPlain? rest with
      | some "elif" => do
          let (no, rest) ← readChoice budget (rest.drop 1)
          .ok (choice condition yes no, rest)
      | some "else" => do
          let (no, rest) ← readList budget true (rest.drop 1)
          let (_, rest) ← expectWord "fi" rest
          .ok (choice condition yes no, rest)
      | _ => do
          let (_, rest) ← expectWord "fi" rest
          .ok (choice condition yes nothing, rest)

def readCasePatterns : (budget : Nat) → List PlacedToken →
    Except PlacedFault (Reading (List Word))
  | 0, tokens => .error (unexpectedNext tokens)
  | budget + 1, tokens =>
      match tokens with
      | ⟨_, .word pieces⟩ :: rest =>
          match nextOperator? rest with
          | some "|" => do
              let (others, after) ← readCasePatterns budget (rest.drop 1)
              .ok (pieces :: others, after)
          | some ")" => .ok ([pieces], rest.drop 1)
          | _ => .error (unexpectedNext rest)
      | _ => .error (unexpectedNext tokens)

def readCases : (budget : Nat) → (word : Word) → List PlacedToken →
    Except PlacedFault (Reading Statement)
  | 0, _, tokens => .error (unexpectedNext tokens)
  | budget + 1, word, tokens =>
      if nextPlain? tokens = some "esac" then .ok (nothing, tokens.drop 1)
      else do
        let start := if nextOperator? tokens = some "(" then tokens.drop 1 else tokens
        let (patterns, rest) ← readCasePatterns budget start
        let inner := dropLineEnds rest
        let (body, rest) ←
          if isListEnd inner then .ok (nothing, inner) else readList budget true inner
        let next :=
          if nextOperator? rest = some ";;" then dropLineEnds (rest.drop 1) else rest
        let (otherwise, after) ← readCases budget word next
        .ok (caseOf word patterns body otherwise, after)

def readLoop : (budget : Nat) → (whileHolds : Bool) → List PlacedToken →
    Except PlacedFault (Reading Statement)
  | 0, _, tokens => .error (unexpectedNext tokens)
  | budget + 1, whileHolds, tokens => do
      let (condition, rest) ← readList budget true tokens
      let (_, rest) ← expectWord "do" rest
      let (body, rest) ← readList budget true rest
      let (_, rest) ← expectWord "done" rest
      .ok (loop whileHolds condition body, rest)

def readFor : (budget : Nat) → List PlacedToken → Except PlacedFault (Reading Statement)
  | 0, tokens => .error (unexpectedNext tokens)
  | budget + 1, tokens =>
      match nextPlain? tokens with
      | none => .error (unexpectedNext tokens)
      | some name => do
          let rest := dropLineEnds (tokens.drop 1)
          let (words, rest) :=
            if nextPlain? rest = some "in" then readWords (rest.drop 1)
            else ([[.variable true "@" ""]], rest)
          let (_, rest) ← expectWord "do" (dropSeparator rest)
          let (body, rest) ← readList budget true rest
          let (_, rest) ← expectWord "done" rest
          .ok (forEach name words body, rest)
end

def readLines (budget : Nat) : (lines : Nat) → List PlacedToken →
    List Statement × Option PlacedFault
  | 0, _ => ([], none)
  | lines + 1, tokens =>
      match dropLineEnds tokens with
      | [] => ([], none)
      | start =>
          match readList budget false start with
          | .error fault => ([], some fault)
          | .ok (statement, rest) =>
              match rest with
              | ⟨_, .lineEnd⟩ :: _ | [] =>
                  let (statements, fault) := readLines budget lines rest
                  (statement :: statements, fault)
              | _ => ([], some (unexpectedNext rest))

def ofScript (script : String) : List Statement × Option PlacedFault :=
  let (tokens, tokenFault) := Token.ofScript script
  let (statements, fault) := readLines (8 * tokens.length + 8) (tokens.length + 1) tokens
  let last := 1 + script.toList.count '\n'
  match tokenFault with
  | some found => (statements.dropLast, some (last, found))
  | none =>
      (statements, fault.map fun (line, found) =>
        if found = .unexpectedEnd then (last + 1, found) else (line, found))

end Statement

end LiterateTest.Shell
