import LiterateTest.Pattern.Property

/-! Patterns, and whether a text holds a match.

A text is read character by character. The state is the list of patterns that may still
follow; a character takes each of them to its remainders, and none of these grows with the
text, so that no pattern needs more than a step for each character and state. -/

namespace LiterateTest

inductive Boundary where
  | textStart | textEnd
  | lineStart | lineEnd
  | carriageLineStart | carriageLineEnd
  | word (ascii : Bool)
  | notWord (ascii : Bool)
  | wordStart (ascii : Bool)
  | wordEnd (ascii : Bool)
  | wordStartHalf (ascii : Bool)
  | wordEndHalf (ascii : Bool)
  deriving DecidableEq, Repr

inductive Pattern where
  | nothing
  | empty
  | chars (set : CharSet)
  | boundary (kind : Boundary)
  | sequence (first second : Pattern)
  | either (left right : Pattern)
  /-- A pattern at least `least` times, and at most `most` times if there is a limit. -/
  | repeated (least : Nat) (most : Option Nat) (body : Pattern)
  deriving DecidableEq, Repr

namespace Boundary

def isWord (ascii : Bool) : Option Char → Bool
  | none => false
  | some c => if ascii then CharSet.asciiWordCharacters.contains c else Text.isWordChar c

def holds (before after : Option Char) : Boundary → Bool
  | textStart => before.isNone
  | textEnd => after.isNone
  | lineStart => before.isNone || before == some '\n'
  | lineEnd => after.isNone || after == some '\n'
  | carriageLineStart =>
      before.isNone || before == some '\n' || (before == some '\r' && after != some '\n')
  | carriageLineEnd =>
      after.isNone || after == some '\r' || (after == some '\n' && before != some '\r')
  | word ascii => isWord ascii before != isWord ascii after
  | notWord ascii => isWord ascii before == isWord ascii after
  | wordStart ascii => !isWord ascii before && isWord ascii after
  | wordEnd ascii => isWord ascii before && !isWord ascii after
  | wordStartHalf ascii => !isWord ascii before
  | wordEndHalf ascii => !isWord ascii after

end Boundary

namespace Pattern

def matchesEmpty (before after : Option Char) : Pattern → Bool
  | nothing => false
  | empty => true
  | chars _ => false
  | boundary kind => kind.holds before after
  | sequence first second => first.matchesEmpty before after && second.matchesEmpty before after
  | either left right => left.matchesEmpty before after || right.matchesEmpty before after
  | repeated least _ body => least == 0 || body.matchesEmpty before after

def append (first second : Pattern) : Pattern :=
  match first with
  | empty => second
  | first => sequence first second

def fewer (least : Nat) (most : Option Nat) (body : Pattern) : Pattern :=
  if most = some 1 then empty else repeated (least - 1) (most.map (· - 1)) body

/-- The patterns that may follow once a character has been read. A repetition whose body
matches the empty text may pass over some of its times before it reads the character. -/
def remainders (before : Option Char) (c : Char) : Pattern → List Pattern
  | nothing => []
  | empty => []
  | boundary _ => []
  | chars set => if set.contains c then [empty] else []
  | sequence first second =>
      let within := (first.remainders before c).map fun rest => rest.append second
      if first.matchesEmpty before (some c) then within ++ second.remainders before c else within
  | either left right => left.remainders before c ++ right.remainders before c
  | repeated least most body =>
      if most = some 0 then []
      else
        let started := body.remainders before c
        let skips := if body.matchesEmpty before (some c) then least else 0
        let allowed := (List.range (skips + 1)).filter fun skipped =>
          most.all fun limit => skipped < limit
        let rests := allowed.map fun skipped =>
          fewer (least - skipped) (most.map (· - skipped)) body
        rests.flatMap fun rest => started.map fun within => within.append rest

def addNew (known : List Pattern) (found : Pattern) : List Pattern :=
  if known.contains found then known else found :: known

/-- Whether a match of `pattern` begins in the text or one of the states goes on to a match. -/
def search (pattern : Pattern) :
    (before : Option Char) → (states : List Pattern) → List Char → Bool
  | before, states, [] => (pattern :: states).any fun state => state.matchesEmpty before none
  | before, states, c :: rest =>
      let current := addNew states pattern
      if current.any fun state => state.matchesEmpty before (some c) then true
      else
        let next := current.flatMap fun state => state.remainders before c
        search pattern (some c) (next.foldl addNew []) rest

def occursIn (pattern : Pattern) (text : String) : Bool :=
  search pattern none [] text.toList

/-- A measure of how much room a pattern takes when its repetitions are written out. -/
def weight : Pattern → Nat
  | nothing => 1
  | empty => 1
  | chars set => set.ranges.length
  | boundary _ => 1
  | sequence first second => first.weight + second.weight
  | either left right => left.weight + right.weight + 1
  | repeated least most body => (body.weight + 1) * max 1 (max least (most.getD (least + 1)))

end Pattern

end LiterateTest
