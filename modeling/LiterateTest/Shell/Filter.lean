import LiterateTest.Pattern.Reader
import LiterateTest.Shell.Format

/-! Programs that pass on what they read, or a part of it. -/

-- Sums begin with the zero of core.
attribute [local instance (high)] Zero.ofOfNat0

namespace LiterateTest.Shell.Tool

def cat : Program := fun call =>
  let (letters, names) := Call.splitOptions call.arguments
  let numbered := fun (_ : String) (bytes : List UInt8) =>
    ((byteLines bytes).zipIdx 1).flatMap fun (line, index) =>
      fill [] 6 (Text.utf8Bytes (toString index)) ++ 9 :: line
  call.eachFile names (if letters.contains 'n' then numbered else fun _ bytes => bytes)

def tee : Program := fun call =>
  let (letters, names) := Call.splitOptions call.arguments
  let write := fun (files : FileTree) (name : String) =>
    let before := if letters.contains 'a' then (files.readBytes? name).getD [] else []
    (files.write? name (before ++ call.input)).getD files
  { call.output call.input with files := names.foldl write call.files, input := [] }

def setBytes : List UInt8 → List UInt8
  | low :: 45 :: high :: rest =>
      (List.range (high.toNat + 1 - low.toNat)).map (fun index => low + index.toUInt8)
        ++ setBytes rest
  | byte :: rest => byte :: setBytes rest
  | [] => []

def byteClasses : List (String × String) :=
  [("[:lower:]", "a-z"), ("[:upper:]", "A-Z"), ("[:digit:]", "0-9"), ("[:alpha:]", "A-Za-z"),
    ("[:alnum:]", "0-9A-Za-z"), ("[:space:]", "\t\n\x0b\x0c\r "), ("[:blank:]", "\t ")]

def setOf (text : String) : List UInt8 :=
  let plain := byteClasses.foldl (fun text entry => Text.replace text entry.1 entry.2) text
  setBytes (Escape.write Escape.format plain).1

def squeeze (set : List UInt8) : List UInt8 → List UInt8
  | first :: second :: rest =>
      if first = second && set.contains first then squeeze set (second :: rest)
      else first :: squeeze set (second :: rest)
  | rest => rest

def exchange (sources targets : List UInt8) (byte : UInt8) : UInt8 :=
  match sources.idxOf? byte with
  | some index => (targets[index]?).getD (targets.getLastD byte)
  | none => byte

def tr : Program := fun call =>
  let (letters, sets) := Call.splitOptions call.arguments
  let first := setOf (sets.headD "")
  let isIn := fun (byte : UInt8) => first.contains byte != (letters.contains 'c')
  let second := setOf ((sets.drop 1).headD "")
  let output :=
    if letters.contains 'd' then call.input.filter fun byte => !isIn byte
    else if letters.contains 's' && sets.length = 1 then squeeze first call.input
    else
      let moved :=
        if letters.contains 'c' then
          call.input.map fun byte => if isIn byte then second.getLastD byte else byte
        else call.input.map (exchange first second)
      if letters.contains 's' then squeeze second moved else moved
  { call.output output with input := [] }

/-- A count such as `-n 3`, `-n3` or `-3` at the start, and what follows. -/
def leadingCount (letter : Char) : List String → String × List String
  | [] => ("10", [])
  | argument :: rest =>
      match argument.toList with
      | '-' :: c :: digits =>
          if c = letter then
            if digits.isEmpty then (rest.headD "10", rest.drop 1)
            else (String.ofList digits, rest)
          else if c.isDigit then (String.ofList (c :: digits), rest)
          else ("10", argument :: rest)
      | _ => ("10", argument :: rest)

def withHeader (names : List String) (name : String) (bytes : List UInt8) : List UInt8 :=
  if names.length ≤ 1 then bytes
  else
    let gap := if names.head? = some name then "" else "\n"
    Text.utf8Bytes (gap ++ "==> " ++ name ++ " <==\n") ++ bytes

def head : Program := fun call =>
  let byBytes := call.arguments.any fun argument => argument.startsWith "-c"
  let (count, names) := leadingCount (if byBytes then 'c' else 'n') call.arguments
  let pick := fun (bytes : List UInt8) =>
    let lines := if byBytes then bytes.map ([·]) else byteLines bytes
    match count.toList with
    | '-' :: digits => (lines.take (lines.length - (String.ofList digits).toNat?.getD 0)).flatten
    | _ => (lines.take (count.toNat?.getD 10)).flatten
  call.eachFile names fun name bytes => withHeader names name (pick bytes)

def tail : Program := fun call =>
  let byBytes := call.arguments.any fun argument => argument.startsWith "-c"
  let (count, names) := leadingCount (if byBytes then 'c' else 'n') call.arguments
  let pick := fun (bytes : List UInt8) =>
    let lines := if byBytes then bytes.map ([·]) else byteLines bytes
    match count.toList with
    | '+' :: digits => (lines.drop ((String.ofList digits).toNat?.getD 1 - 1)).flatten
    | _ => (lines.drop (lines.length - count.toNat?.getD 10)).flatten
  call.eachFile names fun name bytes => withHeader names name (pick bytes)

def countWords (bytes : List UInt8) : Nat :=
  (Text.words (String.ofList (bytes.map fun byte => Char.ofNat byte.toNat))).length

def wc : Program := fun call =>
  let (letters, names) := Call.splitOptions call.arguments
  let asked := fun (c : Char) => letters.isEmpty || letters.contains c
  let counts := fun (bytes : List UInt8) =>
    (if asked 'l' then [bytes.count 10] else [])
      ++ (if asked 'w' then [countWords bytes] else [])
      ++ (if letters.contains 'm' then [bytes.length] else [])
      ++ (if asked 'c' then [bytes.length] else [])
  let single := letters.length = 1 && names.length ≤ 1
  let total := (names.map fun name => ((call.files.readBytes? name).getD []).length).sum
  let width :=
    if single then 1 else if names.isEmpty then 7 else (toString total).length
  let line := fun (numbers : List Nat) (name : String) =>
    Text.joinWith " " (numbers.map fun number =>
        String.ofList (List.replicate (width - (toString number).length) ' ') ++ toString number)
      ++ (if name = "" then "" else " " ++ name) ++ "\n"
  if names.isEmpty then { call.say (line (counts call.input) "") with input := [] }
  else
    let reply := call.eachFile names fun name bytes => Text.utf8Bytes (line (counts bytes) name)
    if names.length = 1 then reply
    else
      let all := (names.filterMap fun name => (call.bytesOf name).toOption).flatten
      { reply with
        written := reply.written ++ [.output (Text.utf8Bytes (line (counts all) "total"))] }

def bytesAtMost : List UInt8 → List UInt8 → Bool
  | [], _ => true
  | _ :: _, [] => false
  | left :: lefts, right :: rights =>
      if left = right then bytesAtMost lefts rights else left < right

def leadingNumber (line : List UInt8) : Int :=
  let text := (line.map fun byte => Char.ofNat byte.toNat).dropWhile Char.isWhitespace
  match text with
  | '-' :: rest => -((String.ofList (rest.takeWhile Char.isDigit)).toNat?.getD 0 : Nat)
  | _ => ((String.ofList (text.takeWhile Char.isDigit)).toNat?.getD 0 : Nat)

def dropRepeated : List (List UInt8) → List (List UInt8)
  | first :: second :: rest =>
      if first = second then dropRepeated (second :: rest)
      else first :: dropRepeated (second :: rest)
  | rest => rest

def sort : Program := fun call =>
  let (letters, names) := Call.splitOptions call.arguments
  match call.allBytes names with
  | .error reply => { reply with exitCode := 2 }
  | .ok bytes =>
      let lines := (byteLines bytes).map withoutBreak
      let before := fun (left right : List UInt8) =>
        if letters.contains 'n' && leadingNumber left != leadingNumber right then
          decide (leadingNumber left < leadingNumber right)
        else bytesAtMost left right
      let sorted := lines.mergeSort before
      let unique := if letters.contains 'u' then dropRepeated sorted else sorted
      let ordered := if letters.contains 'r' then unique.reverse else unique
      { call.output (ordered.flatMap withBreak) with input := [] }

def uniq : Program := fun call =>
  match call.allBytes (Call.splitOptions call.arguments).2 with
  | .error reply => reply
  | .ok bytes =>
      let lines := (byteLines bytes).map withoutBreak
      { call.output ((dropRepeated lines).flatMap withBreak) with input := [] }

/-- Exchanges the meaning of characters with and without a backslash in which the two ways of
writing patterns differ. -/
def extendPattern : List Char → List Char
  | [] => []
  | '\\' :: c :: rest =>
      if "+?|()\x7b\x7d".toList.contains c then c :: extendPattern rest
      else '\\' :: c :: extendPattern rest
  | c :: rest =>
      if "+?|()\x7b\x7d".toList.contains c then '\\' :: c :: extendPattern rest
      else c :: extendPattern rest

def escapePattern (text : List Char) : List Char :=
  text.flatMap fun c => if ".*+?|()[]\x7b\x7d^$\\".toList.contains c then ['\\', c] else [c]

def grep : Program := fun call =>
  let (letters, rest) := Call.splitOptions call.arguments
  match rest with
  | [] => call.complain "no pattern" 2
  | text :: names =>
      let chars := text.toList
      let extended :=
        if letters.contains 'F' then escapePattern chars
        else if letters.contains 'E' then chars
        else extendPattern chars
      let flags := if letters.contains 'i' then "(?i)".toList else []
      match Pattern.read? (String.ofList (flags ++ extended)) with
      | none => call.complain "Invalid pattern" 2
      | some pattern =>
          let found := fun (bytes : List UInt8) =>
            ((byteLines bytes).zipIdx 1).filter fun (line, _) =>
              pattern.occursIn (Text.decodeUtf8Lossy (withoutBreak line)) != letters.contains 'v'
          let shown := fun (name : String) (bytes : List UInt8) =>
            let lead := if 1 < names.length then Text.utf8Bytes (name ++ ":") else []
            if letters.contains 'q' then []
            else if letters.contains 'l' then
              if (found bytes).isEmpty then [] else Text.utf8Bytes (name ++ "\n")
            else if letters.contains 'c' then
              lead ++ Text.utf8Bytes (toString (found bytes).length ++ "\n")
            else (found bytes).flatMap fun (line, index) =>
              lead ++ (if letters.contains 'n' then Text.utf8Bytes (toString index ++ ":") else [])
                ++ withBreak line
          let reply := call.eachFile names shown
          let searched := if names.isEmpty then ["-"] else names
          let hasMatch := searched.any fun name =>
            ((call.bytesOf name).toOption).any fun bytes => !(found bytes).isEmpty
          { reply with
            exitCode := if reply.exitCode != 0 then 2 else if hasMatch then 0 else 1 }

end LiterateTest.Shell.Tool
