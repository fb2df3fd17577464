/-! Text as bytes in UTF-8, and bytes as text. -/

namespace LiterateTest.Text

def utf8Bytes (text : String) : List UInt8 := text.toList.flatMap String.utf8EncodeChar

/-! ## Decoding -/

/-- The bounds of the bytes that follow a first byte, and the bits of the character that this
holds. -/
def utf8Shape? (first : Nat) : Option (Nat × List (Nat × Nat)) :=
  let any := (0x80, 0xBF)
  if first < 0x80 then some (first, [])
  else if first < 0xC2 then none
  else if first < 0xE0 then some (first % 0x20, [any])
  else if first = 0xE0 then some (0, [(0xA0, 0xBF), any])
  else if first = 0xED then some (0xD, [(0x80, 0x9F), any])
  else if first < 0xF0 then some (first % 0x10, [any, any])
  else if first = 0xF0 then some (0, [(0x90, 0xBF), any, any])
  else if first < 0xF4 then some (first % 8, [any, any, any])
  else if first = 0xF4 then some (4, [(0x80, 0x8F), any, any])
  else none

def utf8Follow : (bounds : List (Nat × Nat)) → (bits : Nat) → List UInt8 → Option Nat × Nat
  | [], bits, _ => (some bits, 0)
  | _ :: _, _, [] => (none, 0)
  | (low, high) :: bounds, bits, byte :: rest =>
      if low ≤ byte.toNat && byte.toNat ≤ high then
        let (code, count) := utf8Follow bounds (bits * 0x40 + byte.toNat % 0x40) rest
        (code, count + 1)
      else (none, 0)

/-- The characters of some bytes; none where bytes are no character. Bytes that begin a
character without ending it count as one. `skip` bytes have been read before. -/
def utf8CharsFrom : (skip : Nat) → List UInt8 → List (Option Char)
  | _, [] => []
  | skip + 1, _ :: rest => utf8CharsFrom skip rest
  | 0, byte :: rest =>
      match utf8Shape? byte.toNat with
      | none => none :: utf8CharsFrom 0 rest
      | some (bits, bounds) =>
          let (code, count) := utf8Follow bounds bits rest
          code.map Char.ofNat :: utf8CharsFrom count rest

def decodeUtf8? (bytes : List UInt8) : Option String :=
  ((utf8CharsFrom 0 bytes).mapM id).map String.ofList

def decodeUtf8Lossy (bytes : List UInt8) : String :=
  String.ofList ((utf8CharsFrom 0 bytes).map fun c => c.getD '\ufffd')

example : decodeUtf8? [0xC3, 0xA9, 0x41] = some "éA" := by decide
example : decodeUtf8? [0xC3] = none := by decide
example : decodeUtf8Lossy [0xF0, 0x9F, 0x41] = "\ufffdA" := by decide

end LiterateTest.Text
