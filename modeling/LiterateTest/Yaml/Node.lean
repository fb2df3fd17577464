import LiterateTest.Yaml.Scanner

/-! Tokens to nodes. -/

namespace LiterateTest.Yaml

inductive Node where
  | scalar (tag : Option String) (style : ScalarStyle) (text : String)
  | sequence (tag : Option String) (items : List Node)
  | mapping (tag : Option String) (entries : List (Node × Node))

namespace Node

def emptyScalar : Node := .scalar none .plain ""

instance : Inhabited Node := ⟨emptyScalar⟩

end Node

abbrev Anchors := List (String × Node)

structure NodeState where
  tokens : List Token
  anchors : Anchors := []
  handles : List (String × String) := []

namespace NodeState

def next? (state : NodeState) : Option Token := state.tokens.head?

def advance (state : NodeState) : NodeState := { state with tokens := state.tokens.drop 1 }

def startsWith (state : NodeState) (stops : List Token) : Bool :=
  match state.next? with
  | none => true
  | some token => stops.contains token

end NodeState

/-! ## Properties -/

structure Properties where
  anchor : Option String := none
  tag : Option String := none

def Properties.isEmpty (properties : Properties) : Bool :=
  properties.anchor.isNone && properties.tag.isNone

def resolveTag? (handles : List (String × String)) (handle rest : String) : Option String :=
  if handle == "" then some rest
  else
    match handles.lookup handle with
    | some lead => some (lead ++ rest)
    | none =>
        if handle == "!!" then some ("tag:yaml.org,2002:" ++ rest)
        else if handle == "!" then some ("!" ++ rest)
        else none

def properties? (state : NodeState) : Option (Properties × NodeState) :=
  match state.next? with
  | some (.anchor name) =>
      let after := state.advance
      match after.next? with
      | some (.tag handle rest) =>
          (resolveTag? state.handles handle rest).map fun tag =>
            (⟨some name, some tag⟩, after.advance)
      | _ => some (⟨some name, none⟩, after)
  | some (.tag handle rest) =>
      (resolveTag? state.handles handle rest).map fun tag =>
        let after := state.advance
        match after.next? with
        | some (.anchor name) => (⟨some name, some tag⟩, after.advance)
        | _ => (⟨none, some tag⟩, after)
  | _ => some ({}, state)

def anchored (properties : Properties) (node : Node) (state : NodeState) : Node × NodeState :=
  match properties.anchor with
  | none => (node, state)
  | some name => (node, { state with anchors := (name, node) :: state.anchors })

/-! ## Collections

`node` reads a node inside the collection, and the flag says whether a sequence may stand there
without indentation of its own. -/

abbrev NodeReader := (block indentless : Bool) → NodeState → Option (Node × NodeState)

/-- A node, or an empty scalar where one of the tokens comes that cannot begin a node. -/
def nodeOrEmpty? (node : NodeReader) (block indentless : Bool) (stops : List Token)
    (state : NodeState) : Option (Node × NodeState) :=
  if state.startsWith stops then some (Node.emptyScalar, state) else node block indentless state

def valueOrEmpty? (node : NodeReader) (block : Bool) (stops : List Token) (state : NodeState) :
    Option (Node × NodeState) :=
  if state.next? == some .value then nodeOrEmpty? node block block stops state.advance
  else some (Node.emptyScalar, state)

def blockItems? (node : NodeReader) : (steps : Nat) → NodeState → Option (List Node × NodeState)
  | 0, _ => none
  | steps + 1, state =>
      match state.next? with
      | some .blockEntry => do
          let (item, state) ← nodeOrEmpty? node true false [.blockEntry, .blockEnd] state.advance
          let (items, state) ← blockItems? node steps state
          some (item :: items, state)
      | some .blockEnd => some ([], state.advance)
      | _ => none

def indentlessItems? (node : NodeReader) :
    (steps : Nat) → NodeState → Option (List Node × NodeState)
  | 0, _ => none
  | steps + 1, state =>
      match state.next? with
      | some .blockEntry => do
          let (item, state) ←
            nodeOrEmpty? node true false [.blockEntry, .key, .value, .blockEnd] state.advance
          let (items, state) ← indentlessItems? node steps state
          some (item :: items, state)
      | _ => some ([], state)

def blockStops : List Token := [.key, .value, .blockEnd]

/-- Entries as far as they can be read, and what comes after them if these are all. -/
abbrev Entries := List (Node × Node) × Option NodeState

def Entries.whole? (entries : Entries) : Option (List (Node × Node) × NodeState) :=
  entries.2.map fun state => (entries.1, state)

/-- An entry of a block mapping; a colon without a key in front of it has an empty one. -/
def blockPair? (node : NodeReader) (state : NodeState) : Option ((Node × Node) × NodeState) :=
  match state.next? with
  | some .key => do
      let (key, state) ← nodeOrEmpty? node true true blockStops state.advance
      let (value, state) ← valueOrEmpty? node true blockStops state
      some ((key, value), state)
  | some .value => do
      let (value, state) ← valueOrEmpty? node true blockStops state
      some ((Node.emptyScalar, value), state)
  | _ => none

def blockEntries (node : NodeReader) : (steps : Nat) → NodeState → Entries
  | 0, _ => ([], none)
  | steps + 1, state =>
      if state.next? == some .blockEnd then ([], some state.advance)
      else
        match blockPair? node state with
        | none => ([], none)
        | some (entry, state) =>
            let (entries, after) := blockEntries node steps state
            (entry :: entries, after)

def flowItem? (node : NodeReader) (state : NodeState) : Option (Node × NodeState) :=
  if state.next? == some .key then do
    let (key, state) ←
      nodeOrEmpty? node false false [.value, .flowEntry, .flowSequenceEnd] state.advance
    let (value, state) ← valueOrEmpty? node false [.flowEntry, .flowSequenceEnd] state
    some (.mapping none [(key, value)], state)
  else node false false state

def flowItems? (node : NodeReader) :
    (steps : Nat) → (first : Bool) → NodeState → Option (List Node × NodeState)
  | 0, _, _ => none
  | steps + 1, first, state =>
      if state.next? == some .flowSequenceEnd then some ([], state.advance)
      else if !first && state.next? != some .flowEntry then none
      else
        let state := if first then state else state.advance
        if state.next? == some .flowSequenceEnd then some ([], state.advance)
        else do
          let (item, state) ← flowItem? node state
          let (items, state) ← flowItems? node steps false state
          some (item :: items, state)

/-- An entry of a flow mapping; a node without a colon is a key with an empty value. -/
def flowPair? (node : NodeReader) (state : NodeState) : Option ((Node × Node) × NodeState) :=
  if state.next? == some .key then do
    let (key, state) ←
      nodeOrEmpty? node false false [.value, .flowEntry, .flowMappingEnd] state.advance
    let (value, state) ← valueOrEmpty? node false [.flowEntry, .flowMappingEnd] state
    some ((key, value), state)
  else do
    let (key, state) ← node false false state
    some ((key, Node.emptyScalar), state)

def flowEntries (node : NodeReader) : (steps : Nat) → (first : Bool) → NodeState → Entries
  | 0, _, _ => ([], none)
  | steps + 1, first, state =>
      if state.next? == some .flowMappingEnd then ([], some state.advance)
      else if !first && state.next? != some .flowEntry then ([], none)
      else
        let state := if first then state else state.advance
        if state.next? == some .flowMappingEnd then ([], some state.advance)
        else
          match flowPair? node state with
          | none => ([], none)
          | some (entry, state) =>
              let (entries, after) := flowEntries node steps false state
              (entry :: entries, after)

/-! ## Nodes -/

def node? : (depth : Nat) → (block indentless : Bool) → NodeState → Option (Node × NodeState)
  | 0, _, _, _ => none
  | depth + 1, block, indentless, state =>
      match state.next? with
      | some (.alias name) =>
          (state.anchors.lookup name).map fun node => (node, state.advance)
      | _ => do
          let (properties, state) ← properties? state
          let steps := state.tokens.length + 1
          let tag := properties.tag
          match state.next? with
          | some (.scalar style text) =>
              some (anchored properties (.scalar tag style text) state.advance)
          | some .flowSequenceStart => do
              let (items, state) ← flowItems? (node? depth) steps true state.advance
              some (anchored properties (.sequence tag items) state)
          | some .flowMappingStart => do
              let (entries, state) ← (flowEntries (node? depth) steps true state.advance).whole?
              some (anchored properties (.mapping tag entries) state)
          | some .blockEntry =>
              if indentless then do
                let (items, state) ← indentlessItems? (node? depth) steps state
                some (anchored properties (.sequence tag items) state)
              else if properties.isEmpty then none
              else some (anchored properties (.scalar tag .plain "") state)
          | some .blockSequenceStart =>
              if block then do
                let (items, state) ← blockItems? (node? depth) steps state.advance
                some (anchored properties (.sequence tag items) state)
              else if properties.isEmpty then none
              else some (anchored properties (.scalar tag .plain "") state)
          | some .blockMappingStart =>
              if block then do
                let (entries, state) ← (blockEntries (node? depth) steps state.advance).whole?
                some (anchored properties (.mapping tag entries) state)
              else if properties.isEmpty then none
              else some (anchored properties (.scalar tag .plain "") state)
          | _ =>
              if properties.isEmpty then none
              else some (anchored properties (.scalar tag .plain "") state)

/-! ## Documents -/

/-- Directives before a document. Only version 1.1 and 1.2 are known, and each handle is given
once. -/
def directives? : (hasVersion : Bool) → (handles : List (String × String)) → List Token →
    Option (List (String × String) × List Token)
  | hasVersion, handles, .versionDirective major minor :: rest =>
      if hasVersion || major != 1 || !(minor == 1 || minor == 2) then none
      else directives? true handles rest
  | hasVersion, handles, .tagDirective handle lead :: rest =>
      if (handles.lookup handle).isSome then none
      else directives? hasVersion ((handle, lead) :: handles) rest
  | _, handles, tokens => some (handles, tokens)

def isDocumentBoundary : Token → Bool
  | .versionDirective _ _ => true
  | .tagDirective _ _ => true
  | .documentStart => true
  | .documentEnd => true
  | _ => false

def dropDocumentEnds (tokens : List Token) : List Token :=
  tokens.dropWhile (· == .documentEnd)

def depthLimit : Nat := 128

/-- The place where the root of the first document begins, behind directives and a marker if there
are any, and whether there is a marker. -/
def start? (tokens : List Token) : Option (Bool × NodeState) :=
  if tokens.head?.any fun first => isDocumentBoundary first && first != .documentEnd then
    (directives? false [] tokens).bind fun (handles, rest) =>
      if rest.head? == some .documentStart then some (true, ⟨rest.drop 1, [], handles⟩) else none
  else some (false, ⟨tokens, [], []⟩)

def isRootless (explicit : Bool) (state : NodeState) : Bool :=
  match state.next? with
  | none => true
  | some token => explicit && isDocumentBoundary token

end LiterateTest.Yaml
