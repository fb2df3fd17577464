import LiterateTest.Toml.Basic

/-! TOML tables while a document is read: each table knows how it came about, which decides
whether it can be added to. -/

namespace LiterateTest

inductive TableOrigin where
  /-- By the header of a table inside it. -/
  | implicit
  /-- By a key with dots. -/
  | dotted
  /-- By its own header. -/
  | header
  deriving DecidableEq, Repr

inductive TomlDraft where
  | leaf (value : TomlValue)
  | table (origin : TableOrigin) (entries : List (String × TomlDraft))
  /-- Tables under headers in double brackets, the latest first. -/
  | tables (all : List (List (String × TomlDraft)))

namespace TomlDraft

mutual
def finish : TomlDraft → TomlValue
  | leaf value => value
  | table _ entries => .table (finishEntries entries)
  | tables all => .array (finishTables all).reverse

def finishEntries : List (String × TomlDraft) → List (String × TomlValue)
  | [] => []
  | (key, draft) :: rest => (key, draft.finish) :: finishEntries rest

def finishTables : List (List (String × TomlDraft)) → List TomlValue
  | [] => []
  | entries :: rest => .table (finishEntries entries) :: finishTables rest
end

/-- Adds a value under a key with dots. The tables that the key names are made by such keys, if
they are there. -/
def add (new : TomlValue) : (key : List String) → Record TomlDraft → Option (Record TomlDraft)
  | [], _ => none
  | [name], entries =>
      if Record.hasKey entries name then none
      else some (Record.insert name (leaf new) entries)
  | name :: names, entries =>
      match Record.get? name entries with
      | none => (add new names []).map fun inner => Record.insert name (table .dotted inner) entries
      | some (table origin old) =>
          if origin = .header || (origin = .implicit && names.length = 1) then none
          else (add new names old).map fun inner => Record.insert name (table origin inner) entries
      | some _ => none

/-- Changes the table that the names lead to; of tables under one name, this is the latest.
Tables that are not there are made. -/
def within (change : Record TomlDraft → Option (Record TomlDraft)) :
    (path : List String) → Record TomlDraft → Option (Record TomlDraft)
  | [], entries => change entries
  | name :: names, entries =>
      match Record.get? name entries with
      | none =>
          (within change names []).map fun inner =>
            Record.insert name (table .implicit inner) entries
      | some (table origin old) =>
          (within change names old).map fun inner =>
            Record.insert name (table origin inner) entries
      | some (tables (latest :: others)) =>
          (within change names latest).map fun inner =>
            Record.insert name (tables (inner :: others)) entries
      | some _ => none

def startTable (name : String) (entries : Record TomlDraft) : Option (Record TomlDraft) :=
  match Record.get? name entries with
  | none => some (Record.insert name (table .header []) entries)
  | some (table .implicit inner) => some (Record.insert name (table .header inner) entries)
  | some _ => none

def startNextTable (name : String) (entries : Record TomlDraft) : Option (Record TomlDraft) :=
  match Record.get? name entries with
  | none => some (Record.insert name (tables [[]]) entries)
  | some (tables all) => some (Record.insert name (tables ([] :: all)) entries)
  | some _ => none

end TomlDraft

end LiterateTest
