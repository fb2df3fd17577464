import LiterateTest.Text.Utf8

/-! Backslashes in text that is to be written: `\n`, `\x41` and others stand for bytes. -/

namespace LiterateTest.Shell

namespace Escape

def octalDigit? (c : Char) : Option Nat :=
  if '0' ≤ c && c ≤ '7' then some (c.toNat - '0'.toNat) else none

def hexDigit? (c : Char) : Option Nat :=
  if '0' ≤ c && c ≤ '9' then some (c.toNat - '0'.toNat)
  else if 'a' ≤ c && c ≤ 'f' then some (c.toNat - 'a'.toNat + 10)
  else if 'A' ≤ c && c ≤ 'F' then some (c.toNat - 'A'.toNat + 10)
  else none

def readDigits (base : Nat) (digit? : Char → Option Nat) :
    (most value : Nat) → List Char → Nat × Nat
  | 0, value, _ => (value, 0)
  | _ + 1, value, [] => (value, 0)
  | most + 1, value, c :: rest =>
      match digit? c with
      | some digit =>
          let (result, count) := readDigits base digit? most (value * base + digit) rest
          (result, count + 1)
      | none => (value, 0)

def byteOfLetter? (c : Char) : Option UInt8 :=
  match c with
  | 'a' => some 7
  | 'b' => some 8
  | 'e' => some 27
  | 'f' => some 12
  | 'n' => some 10
  | 'r' => some 13
  | 't' => some 9
  | 'v' => some 11
  | '\\' => some 92
  | '\'' => some 39
  | '"' => some 34
  | _ => none

structure Rule where
  /-- Whether an octal number needs a `0` before it. -/
  octalAfterZero : Bool
  /-- Whether `\c` ends the text. -/
  hasStop : Bool

def meaning? (rule : Rule) (text : List Char) : Option (List UInt8 × Nat) :=
  match text with
  | [] => none
  | 'x' :: rest =>
      match readDigits 16 hexDigit? 2 0 rest with
      | (_, 0) => none
      | (value, count) => some ([value.toUInt8], count + 1)
  | 'u' :: rest =>
      match readDigits 16 hexDigit? 4 0 rest with
      | (_, 0) => none
      | (value, count) => some (String.utf8EncodeChar (Char.ofNat value), count + 1)
  | '0' :: rest =>
      let (value, count) := readDigits 8 octalDigit? (if rule.octalAfterZero then 3 else 2) 0 rest
      some ([value.toUInt8], count + 1)
  | c :: rest =>
      match octalDigit? c with
      | some _ =>
          if rule.octalAfterZero then none
          else
            let (value, count) := readDigits 8 octalDigit? 3 0 (c :: rest)
            some ([value.toUInt8], count)
      | none => (byteOfLetter? c).map fun byte => ([byte], 1)

/-- The bytes of a text, and whether it ended with `\c`. `skip` characters have been read
before. -/
def writeFrom (rule : Rule) : (skip : Nat) → List Char → List UInt8 × Bool
  | _, [] => ([], false)
  | skip + 1, _ :: rest => writeFrom rule skip rest
  | 0, '\\' :: rest =>
      if rule.hasStop && rest.head? == some 'c' then ([], true)
      else
        match meaning? rule rest with
        | some (bytes, count) =>
            let (others, stopped) := writeFrom rule count rest
            (bytes ++ others, stopped)
        | none =>
            let (others, stopped) := writeFrom rule 0 rest
            (92 :: others, stopped)
  | 0, c :: rest =>
      let (others, stopped) := writeFrom rule 0 rest
      (String.utf8EncodeChar c ++ others, stopped)

def write (rule : Rule) (text : String) : List UInt8 × Bool := writeFrom rule 0 text.toList

def format : Rule := { octalAfterZero := false, hasStop := false }

def argument : Rule := { octalAfterZero := true, hasStop := true }

example : write format "\\377a\\n" = ([0xFF, 0x61, 10], false) := by decide
example : write argument "\\0101\\cz" = ([0x41], true) := by decide

end Escape

end LiterateTest.Shell
