import LiterateTest.Toml.Draft
import LiterateTest.Toml.Scalar

/-! Reading TOML documents. -/

namespace LiterateTest.Toml

/-! ## Between values -/

def skipSpace (text : List Char) : List Char := text.dropWhile isSpace

def skipBlank : (inComment : Bool) → List Char → Option (List Char)
  | _, [] => some []
  | true, c :: rest =>
      if c = '\n' then skipBlank false rest
      else if isControl c && (lineBreak? (c :: rest)).isNone then none
      else skipBlank true rest
  | false, c :: rest =>
      if isSpace c || (lineBreak? (c :: rest)).isSome then skipBlank false rest
      else if c = '#' then skipBlank true rest
      else some (c :: rest)

def endLine (text : List Char) : Option (List Char) :=
  match skipSpace text with
  | [] => some []
  | '#' :: rest => skipBlank true rest
  | rest => (lineBreak? rest).map rest.drop

/-! ## Keys -/

def readKeyPart (text : List Char) : Option (String × List Char) :=
  match text with
  | '"' :: _ => (readQuoted text).map fun (name, rest) => (String.ofList name, rest)
  | '\'' :: _ => (readQuoted text).map fun (name, rest) => (String.ofList name, rest)
  | _ =>
      let name := text.takeWhile isBareKeyChar
      if name.isEmpty then none
      else some (String.ofList name, text.dropWhile isBareKeyChar)

def readKey : (dots : Nat) → Reader (List String)
  | dots, text => do
      let (name, rest) ← readKeyPart (skipSpace text)
      match dots, skipSpace rest with
      | dots + 1, '.' :: rest => do
          let (names, rest) ← readKey dots rest
          some (name :: names, rest)
      | _, rest => some ([name], rest)

/-! ## Values

`value` reads an element; the number of steps bounds the number of elements. -/

def readItemsRest (value : Reader TomlValue) :
    (steps : Nat) → (read : List TomlValue) → Reader TomlValue
  | 0, _, _ => none
  | steps + 1, read, text => do
      match ← skipBlank false text with
      | ']' :: rest => some (.array read.reverse, rest)
      | text => do
          let (item, rest) ← value text
          match ← skipBlank false rest with
          | ',' :: rest => readItemsRest value steps (item :: read) rest
          | ']' :: rest => some (.array (item :: read).reverse, rest)
          | _ => none

def readEntry (value : Reader TomlValue) : Reader (List String × TomlValue)
  | text => do
      let (key, rest) ← readKey text.length text
      match rest with
      | '=' :: rest => do
          let (item, rest) ← value (skipSpace rest)
          some ((key, item), rest)
      | _ => none

def finishTable (entries : Record TomlDraft) : TomlValue :=
  .table (TomlDraft.finishEntries entries)

def readEntriesRest (value : Reader TomlValue) :
    (steps : Nat) → (read : Record TomlDraft) → Reader TomlValue
  | 0, _, _ => none
  | steps + 1, read, text => do
      match ← skipBlank false text with
      | '\x7d' :: rest => some (finishTable read, rest)
      | text => do
          let ((key, item), rest) ← readEntry value text
          let read ← TomlDraft.add item key read
          match ← skipBlank false rest with
          | ',' :: rest => readEntriesRest value steps read rest
          | '\x7d' :: rest => some (finishTable read, rest)
          | _ => none

def readValue : (depth : Nat) → Reader TomlValue
  | depth, text =>
      match depth, text with
      | depth + 1, '[' :: rest => readItemsRest (readValue depth) text.length [] rest
      | depth + 1, '\x7b' :: rest => readEntriesRest (readValue depth) text.length [] rest
      | _, '"' :: _ =>
          (readText text).map fun (read, rest) => (.string (String.ofList read), rest)
      | _, '\'' :: _ =>
          (readText text).map fun (read, rest) => (.string (String.ofList read), rest)
      | _, _ => readScalar text

def depthLimit : Nat := 80

/-! ## Documents -/

/-- A document up to some line: its entries, and the path of the table whose header came last. -/
structure Partial where
  entries : Record TomlDraft := []
  path : List String := []

namespace Partial

def addEntry (document : Partial) (key : List String) (value : TomlValue) : Option Partial :=
  (TomlDraft.within (TomlDraft.add value key) document.path document.entries).map fun entries =>
    { document with entries }

def startHeader (document : Partial) (start : String → Record TomlDraft → Option (Record TomlDraft))
    (path : List String) : Option Partial := do
  let name ← path.getLast?
  let entries ← TomlDraft.within (start name) path.dropLast document.entries
  some { entries, path }

end Partial

def readLine (document : Partial) (text : List Char) : Option (Partial × List Char) := do
  match text with
  | '[' :: '[' :: rest =>
      let (path, rest) ← readKey rest.length rest
      let next ← document.startHeader TomlDraft.startNextTable path
      let rest ← Text.stripLead? [']', ']'] rest
      some (next, rest)
  | '[' :: rest =>
      let (path, rest) ← readKey rest.length rest
      let next ← document.startHeader TomlDraft.startTable path
      let rest ← Text.stripLead? [']'] rest
      some (next, rest)
  | text =>
      let ((key, value), rest) ← readEntry (readValue depthLimit) text
      let next ← document.addEntry key value
      some (next, rest)

def readLines : (lines : Nat) → Partial → List Char → Option (Record TomlDraft)
  | lines, document, text => do
      match lines, ← skipBlank false text with
      | _, [] => some document.entries
      | 0, _ => none
      | lines + 1, text => do
          let (next, rest) ← readLine document text
          let rest ← endLine rest
          readLines lines next rest

def read? (text : String) : Option (Record TomlValue) :=
  let chars := ((Text.dropLead? text "\ufeff").getD text).toList
  (readLines chars.length {} chars).map TomlDraft.finishEntries

end LiterateTest.Toml
