import LiterateTest.File.Glob

/-! What words come to: fields, split at blanks and matched with files. -/

namespace LiterateTest.Shell

inductive Fragment where
  /-- Kept whole; `plain` if wildcards in it are matched with files. -/
  | whole (plain : Bool) (text : String)
  /-- Split at blanks. -/
  | divisible (text : String)
  /-- Here a new field begins. -/
  | boundary
  deriving DecidableEq, Repr

/-- A field: its characters, each with whether it may be a wildcard. -/
abbrev Field := List (Bool × Char)

namespace Fragment

def isDivider (c : Char) : Bool := c == ' ' || c == '\t' || c == '\n'

def mark (plain : Bool) (text : String) : Field := text.toList.map (plain, ·)

/-- Goes on from fields, of which the current one may not have begun, by characters that are
split. -/
def divide (done : List Field) (current : Option Field) :
    List Char → List Field × Option Field
  | [] => (done, current)
  | c :: rest =>
      if isDivider c then
        match current with
        | some field => divide (done ++ [field]) none rest
        | none => divide done none rest
      else divide done (some (current.getD [] ++ [(true, c)])) rest

def fieldsFrom (done : List Field) (current : Option Field) : List Fragment → List Field
  | [] => done ++ current.toList
  | .whole plain text :: rest =>
      fieldsFrom done (some (current.getD [] ++ mark plain text)) rest
  | .divisible text :: rest =>
      let (done, current) := divide done current text.toList
      fieldsFrom done current rest
  | .boundary :: rest => fieldsFrom (done ++ current.toList) none rest

def fields (fragments : List Fragment) : List Field := fieldsFrom [] none fragments

def joined (fragments : List Fragment) : String :=
  String.join (fragments.map fun fragment =>
    match fragment with
    | whole _ text => text
    | divisible text => text
    | boundary => " ")

end Fragment

namespace Field

def text (field : Field) : String := String.ofList (field.map Prod.snd)

def pattern : (skip : Nat) → Field → List GlobToken
  | _, [] => []
  | skip + 1, _ :: rest => pattern skip rest
  | 0, (true, '*') :: rest => .anyText :: pattern 0 rest
  | 0, (true, '?') :: rest => .anyChar :: pattern 0 rest
  | 0, (true, '[') :: rest =>
      match Glob.readSet? (rest.map Prod.snd) with
      | some (token, count) => token :: pattern count rest
      | none => .char '[' :: pattern 0 rest
  | 0, (_, c) :: rest => .char c :: pattern 0 rest

def steps : Field → List Field
  | [] => [[]]
  | (plain, c) :: rest =>
      match steps rest with
      | step :: others => if c = '/' then [] :: step :: others else ((plain, c) :: step) :: others
      | [] => [[(plain, c)]]

def hasWildcard (field : Field) : Bool :=
  field.any fun (plain, c) => plain && ['*', '?', '['].contains c

/-- The paths in some directories that go on as one part of a path says. A dot at the start is
not matched by a wildcard. -/
def followStep (files : FileTree) (isFirst : Bool) (paths : List String) (step : Field) :
    List String :=
  let join := fun (path name : String) => if isFirst then path ++ name else path ++ "/" ++ name
  if step.hasWildcard then
    paths.flatMap fun path =>
      match files.entry? (if path = "" then "." else path) with
      | some entry =>
          let names := (entry.entries.map Prod.fst).filter fun name =>
            Glob.isMatch (pattern 0 step) name.toList
              && (!name.startsWith "." || step.text.startsWith ".")
          names.map (join path)
      | none => []
  else
    (paths.map fun path => join path step.text).filter fun path =>
      path = "" || files.exists? path

def expand (files : FileTree) (field : Field) : List String :=
  if !field.hasWildcard then [field.text]
  else
    match steps field with
    | [] => [field.text]
    | first :: others =>
        let start := followStep files true [""] first
        let found := others.foldl (followStep files false) start
        if found.isEmpty then [field.text] else found

end Field

end LiterateTest.Shell
