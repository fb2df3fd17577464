import LiterateTest.Fixture.Basic
import Mathlib.Data.List.Basic

/-! Command lines are read back: their words, which end at the spaces outside quotes, are the
program and the arguments once the quotes are taken away. -/

namespace LiterateTest.CommandLine

/-! ## Reading -/

inductive Quoting where
  | bare
  /-- Behind a backslash outside quotes. -/
  | escaped
  | single
  | double
  /-- Behind a backslash between double quotes. -/
  | doubleEscaped
  deriving DecidableEq, Repr

structure WordReader where
  quoting : Quoting := .bare
  /-- The characters of the word that has begun, which may be none as yet. -/
  word : Option (List Char) := none
  words : List (List Char) := []
  deriving DecidableEq, Repr

namespace WordReader

def put (reader : WordReader) (c : Char) : WordReader :=
  { reader with word := some (c :: reader.word.getD []) }

/-- Quotes begin a word even if there is nothing between them. -/
def enter (reader : WordReader) (quoting : Quoting) : WordReader :=
  { reader with quoting, word := some (reader.word.getD []) }

def endWord (reader : WordReader) : WordReader :=
  match reader.word with
  | some word => { reader with word := none, words := word.reverse :: reader.words }
  | none => reader

theorem quoting_endWord (reader : WordReader) : reader.endWord.quoting = reader.quoting := by
  rw [endWord]
  split <;> rfl

def isEscapable (c : Char) : Bool := ['$', '\x60', '"', '\\'].contains c

def step (reader : WordReader) (c : Char) : WordReader :=
  match reader.quoting with
  | .bare =>
      if c = ' ' then reader.endWord
      else if c = '\'' then reader.enter .single
      else if c = '"' then reader.enter .double
      else if c = '\\' then reader.enter .escaped
      else reader.put c
  | .escaped => { reader.put c with quoting := .bare }
  | .single => if c = '\'' then { reader with quoting := .bare } else reader.put c
  | .double =>
      if c = '"' then { reader with quoting := .bare }
      else if c = '\\' then { reader with quoting := .doubleEscaped }
      else reader.put c
  | .doubleEscaped =>
      -- A line that goes on behind a backslash is one line.
      if c = '\n' then { reader with quoting := .double }
      else if isEscapable c then { reader.put c with quoting := .double }
      else { (reader.put '\\').put c with quoting := .double }

end WordReader

def words? (line : String) : Option (List String) :=
  let reader := line.toList.foldl WordReader.step {}
  if reader.quoting = .bare then some (reader.endWord.words.reverse.map String.ofList) else none

example : words? "a 'b c'd \"e\\\"\\f\" \\' ''" = some ["a", "b cd", "e\"\\f", "'", ""] := by decide
example : words? "a 'b" = none := by decide

/-! ## Single arguments -/

namespace WordReader

theorem foldl_step_plain {text : List Char}
    (plain : ∀ c ∈ text, ∀ mark ∈ [' ', '\'', '"', '\\'], c ≠ mark) (word : List Char)
    (words : List (List Char)) :
    text.foldl step ⟨.bare, some word, words⟩ = ⟨.bare, some (text.reverse ++ word), words⟩ := by
  induction text generalizing word with
  | nil => rfl
  | cons c rest induction =>
      have first : step ⟨.bare, some word, words⟩ c = ⟨.bare, some (c :: word), words⟩ := by
        have own := plain c List.mem_cons_self
        simp only [List.forall_mem_cons] at own
        rw [step, if_neg own.1, if_neg own.2.1, if_neg own.2.2.1, if_neg own.2.2.2.1]
        rfl
      rw [List.foldl_cons, first, induction fun d member => plain d (List.mem_cons_of_mem c member),
        List.reverse_cons, List.append_assoc, List.singleton_append]

/-- Between single quotes a quote ends them, is put behind a backslash and opens them again; all
else is taken as it is. -/
theorem foldl_step_quoteChar (c : Char) (word : List Char) (words : List (List Char)) :
    (quoteChar c).foldl step ⟨.single, some word, words⟩ = ⟨.single, some (c :: word), words⟩ := by
  by_cases isQuote : c = '\''
  · subst c
    rfl
  · rw [quoteChar, if_neg isQuote, List.foldl_cons, List.foldl_nil]
    simp [step, put, isQuote]

theorem foldl_step_quoteChars (text word : List Char) (words : List (List Char)) :
    (text.flatMap quoteChar).foldl step ⟨.single, some word, words⟩ =
      ⟨.single, some (text.reverse ++ word), words⟩ := by
  induction text generalizing word with
  | nil => rfl
  | cons c rest induction =>
      rw [List.flatMap_cons, List.foldl_append, foldl_step_quoteChar, induction, List.reverse_cons,
        List.append_assoc, List.singleton_append]

end WordReader

theorem ne_mark_of_not_needsQuotes {text : List Char} (plain : needsQuotes text = false) :
    ∀ c ∈ text, ∀ mark ∈ [' ', '\'', '"', '\\'], c ≠ mark := by
  rintro c member mark isMark rfl
  have harmless := List.any_eq_false.mp (Bool.or_eq_false_iff.mp plain).2 c member
  simp only [List.mem_cons, List.not_mem_nil, or_false] at isMark
  rcases isMark with rfl | rfl | rfl | rfl <;> exact harmless (by decide)

theorem foldl_step_quoteArgument (text : List Char) (words : List (List Char)) :
    (quoteArgument text).foldl WordReader.step ⟨.bare, none, words⟩ =
      ⟨.bare, some text.reverse, words⟩ := by
  cases needs : needsQuotes text with
  | true =>
      have opened : WordReader.step ⟨.bare, none, words⟩ '\'' = ⟨.single, some [], words⟩ := rfl
      rw [quoteArgument, needs, if_pos rfl, List.cons_append, List.foldl_cons, opened,
        List.foldl_append, WordReader.foldl_step_quoteChars, List.append_nil]
      rfl
  | false =>
      rw [quoteArgument, needs, if_neg Bool.false_ne_true]
      have plain := ne_mark_of_not_needsQuotes needs
      cases text with
      | nil => cases needs
      | cons c rest =>
          have first : WordReader.step ⟨.bare, none, words⟩ c =
              WordReader.step ⟨.bare, some [], words⟩ c := by
            have own := plain c List.mem_cons_self ' ' List.mem_cons_self
            rw [WordReader.step, WordReader.step, if_neg own, if_neg own]
            rfl
          have all := WordReader.foldl_step_plain plain [] words
          rwa [List.foldl_cons, ← first, ← List.foldl_cons, List.append_nil] at all

/-! ## Lines -/

theorem foldl_step_line (first : List Char) (others words : List (List Char)) :
    (([' '].intercalate ((first :: others).map quoteArgument)).foldl WordReader.step
      ⟨.bare, none, words⟩).endWord = ⟨.bare, none, (first :: others).reverse ++ words⟩ := by
  induction others generalizing first words with
  | nil =>
      rw [List.map_singleton, List.intercalate_singleton, foldl_step_quoteArgument]
      simp [WordReader.endWord]
  | cons second others induction =>
      have spaced : WordReader.step ⟨.bare, some first.reverse, words⟩ ' ' =
          ⟨.bare, none, first :: words⟩ := by
        simp [WordReader.step, WordReader.endWord]
      rw [List.map_cons, List.map_cons, List.intercalate_cons_cons, ← List.map_cons,
        List.foldl_append, List.foldl_append, foldl_step_quoteArgument, List.foldl_cons,
        List.foldl_nil, spaced, induction]
      simp

theorem words?_render (command : Command) :
    words? (render command) = some (command.program :: command.arguments) := by
  have chars : (render command).toList =
      [' '].intercalate ((command.program.toList :: command.arguments.map String.toList).map
        quoteArgument) := by
    rw [render, Text.joinWith, String.toList_intercalate, ← List.map_cons, List.map_map,
      List.map_map]
    congr 1
    exact List.map_congr_left fun part _ => String.toList_ofList
  have read := foldl_step_line command.program.toList (command.arguments.map String.toList) []
  rw [← chars] at read
  have bare : ((render command).toList.foldl WordReader.step {}).quoting = .bare := by
    rw [← WordReader.quoting_endWord]
    exact congrArg WordReader.quoting read
  have given : ((render command).toList.foldl WordReader.step {}).endWord.words =
      (command.program.toList :: command.arguments.map String.toList).reverse ++ [] :=
    congrArg WordReader.words read
  have back : String.ofList ∘ String.toList = id := funext fun _ => String.ofList_toList
  rw [words?, if_pos bare, given, List.append_nil, List.reverse_reverse, ← List.map_cons,
    List.map_map, back, List.map_id]

/-- The line of a fixture says what is run, so it differs from that of any other command. -/
theorem words?_commandLine (fixture other : Fixture) :
    words? fixture.commandLine = some (fixture.exec :: fixture.args) ∧
      (fixture.commandLine = other.commandLine ↔
        fixture.exec = other.exec ∧ fixture.args = other.args) := by
  have own : words? fixture.commandLine = some (fixture.exec :: fixture.args) :=
    words?_render fixture.command
  refine ⟨own, fun same => ?_, fun same => ?_⟩
  · have its : words? other.commandLine = some (other.exec :: other.args) :=
      words?_render other.command
    rw [← same, own] at its
    exact List.cons.inj (Option.some.inj its)
  · rw [Fixture.commandLine, Fixture.command, same.1, same.2]
    rfl

end LiterateTest.CommandLine
