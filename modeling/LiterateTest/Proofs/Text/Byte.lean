import LiterateTest.Text.Utf8
import LiterateTest.Text.Basic
import Mathlib.Data.List.TakeWhile

/-! Positions in a text that count bytes of UTF-8: where a text can be cut, and what its bytes look
like to a reader that takes them one by one. -/

namespace LiterateTest.Text

/-! ## Sizes -/

theorem utf8Length_cons (c : Char) (text : List Char) :
    utf8Length (c :: text) = c.utf8Size + utf8Length text := by
  simp [utf8Length]

theorem utf8Length_append (left right : List Char) :
    utf8Length (left ++ right) = utf8Length left + utf8Length right := by
  simp [utf8Length]

theorem utf8Length_eq (text : List Char) : utf8Length text = (String.ofList text).utf8ByteSize := by
  induction text with
  | nil => rfl
  | cons c text induction =>
      have size : String.ofList (c :: text) = String.singleton c ++ String.ofList text := by
        rw [← String.toList_inj]
        simp
      rw [utf8Length_cons, induction, size, String.utf8ByteSize_append,
        String.utf8ByteSize_singleton]

/-! ## Cuts -/

/-- The text from a byte on. There is none from inside a character or from beyond the end. -/
def fromByte? : List Char → (position : Nat) → Option (List Char)
  | text, 0 => some text
  | [], _ + 1 => none
  | c :: rest, position + 1 =>
      if c.utf8Size ≤ position + 1 then fromByte? rest (position + 1 - c.utf8Size) else none

def toByte? : List Char → (position : Nat) → Option (List Char)
  | _, 0 => some []
  | [], _ + 1 => none
  | c :: rest, position + 1 =>
      if c.utf8Size ≤ position + 1 then (toByte? rest (position + 1 - c.utf8Size)).map (c :: ·)
      else none

def slice? (text : List Char) (start stop : Nat) : Option (List Char) :=
  if start ≤ stop then (fromByte? text start).bind fun rest => toByte? rest (stop - start)
  else none

theorem fromByte?_cons (c : Char) (rest : List Char) (position : Nat) :
    fromByte? (c :: rest) (c.utf8Size + position) = fromByte? rest position := by
  have positive : 0 < c.utf8Size := c.utf8Size_pos
  obtain ⟨before, same⟩ : ∃ before, c.utf8Size + position = before + 1 :=
    ⟨c.utf8Size + position - 1, by omega⟩
  rw [same, fromByte?, if_pos (by omega), ← same, Nat.add_sub_cancel_left]

theorem toByte?_cons (c : Char) (rest : List Char) (position : Nat) :
    toByte? (c :: rest) (c.utf8Size + position) = (toByte? rest position).map (c :: ·) := by
  have positive : 0 < c.utf8Size := c.utf8Size_pos
  obtain ⟨before, same⟩ : ∃ before, c.utf8Size + position = before + 1 :=
    ⟨c.utf8Size + position - 1, by omega⟩
  rw [same, toByte?, if_pos (by omega), ← same, Nat.add_sub_cancel_left]

theorem fromByte?_append (before rest : List Char) :
    fromByte? (before ++ rest) (utf8Length before) = some rest := by
  induction before with
  | nil => cases rest <;> rfl
  | cons c before induction => rw [List.cons_append, utf8Length_cons, fromByte?_cons, induction]

theorem toByte?_append (front rest : List Char) :
    toByte? (front ++ rest) (utf8Length front) = some front := by
  induction front with
  | nil => cases rest <;> rfl
  | cons c front induction =>
      rw [List.cons_append, utf8Length_cons, toByte?_cons, induction]
      rfl

theorem slice?_append (before front rest : List Char) :
    slice? (before ++ (front ++ rest)) (utf8Length before)
      (utf8Length before + utf8Length front) = some front := by
  rw [slice?, if_pos (Nat.le_add_right _ _), fromByte?_append, Option.bind_some,
    Nat.add_sub_cancel_left, toByte?_append]

/-! ## Bytes -/

/-- The bytes of a text, each as the character of its number. A byte of ASCII is thus the character
that it stands for. -/
def byteChars (text : List Char) : List Char :=
  (text.flatMap String.utf8EncodeChar).map fun byte => Char.ofNat byte.toNat

def IsAscii (c : Char) : Prop := c.toNat < 128

instance : DecidablePred IsAscii := fun c => inferInstanceAs (Decidable (c.toNat < 128))

theorem byteChars_append (left right : List Char) :
    byteChars (left ++ right) = byteChars left ++ byteChars right := by
  simp [byteChars]

theorem length_byteChars (text : List Char) : (byteChars text).length = utf8Length text := by
  simp [byteChars, utf8Length, List.length_flatMap, String.length_utf8EncodeChar]

theorem utf8Size_of_isAscii {c : Char} (ascii : IsAscii c) : c.utf8Size = 1 := by
  rw [Char.utf8Size_eq_one_iff, UInt32.le_iff_toNat_le]
  exact Nat.le_of_lt_succ ascii

theorem byteChars_of_isAscii {c : Char} (ascii : IsAscii c) : byteChars [c] = [c] := by
  have number : c.val.toUInt8.toNat = c.toNat := by
    rw [UInt32.toNat_toUInt8]
    exact Nat.mod_eq_of_lt (Nat.lt_trans ascii (by decide))
  rw [byteChars, List.flatMap_singleton,
    String.utf8EncodeChar_eq_singleton (utf8Size_of_isAscii ascii), List.map_singleton, number,
    Char.ofNat_toNat]

theorem utf8Length_of_isAscii {text : List Char} (ascii : ∀ c ∈ text, IsAscii c) :
    utf8Length text = text.length := by
  induction text with
  | nil => rfl
  | cons c text induction =>
      have more := induction fun other member => ascii other (List.mem_cons_of_mem c member)
      rw [utf8Length_cons, utf8Size_of_isAscii (ascii c List.mem_cons_self), more,
        List.length_cons, Nat.add_comm]

theorem le_of_mem_utf8EncodeChar {c : Char} (wide : ¬IsAscii c) :
    ∀ byte ∈ String.utf8EncodeChar c, 128 ≤ byte.toNat := by
  have large : ¬c.val.toNat ≤ 127 := fun small => wide (Nat.lt_succ_of_le small)
  intro byte member
  rw [String.utf8EncodeChar, if_neg large] at member
  split at member
  · simp only [List.mem_cons, List.not_mem_nil, or_false] at member
    rcases member with rfl | rfl <;> rw [UInt8.toNat_ofNat'] <;> omega
  · split at member
    · simp only [List.mem_cons, List.not_mem_nil, or_false] at member
      rcases member with rfl | rfl | rfl <;> rw [UInt8.toNat_ofNat'] <;> omega
    · simp only [List.mem_cons, List.not_mem_nil, or_false] at member
      rcases member with rfl | rfl | rfl | rfl <;> rw [UInt8.toNat_ofNat'] <;> omega

theorem toNat_ofNat_byte (byte : UInt8) : (Char.ofNat byte.toNat).toNat = byte.toNat := by
  have small : byte.toNat < 256 := byte.toNat_lt
  have valid : byte.toNat.isValidChar := .inl (by omega)
  rw [Char.ofNat, dif_pos valid]
  rfl

theorem toList_loop (bytes : ByteArray) (position : Nat) (read : List UInt8) :
    ByteArray.toList.loop bytes position read = read.reverse ++ bytes.data.toList.drop position := by
  fun_induction ByteArray.toList.loop bytes position read with
  | case1 position read inside induction =>
      have current : bytes.get! position = bytes.data.toList[position] :=
        getElem!_pos bytes.data position inside
      rw [induction, List.reverse_cons, List.append_assoc, List.singleton_append, current,
        List.getElem_cons_drop]
  | case2 position read outside =>
      have bound : bytes.data.toList.length ≤ position := by
        rw [Array.length_toList]
        exact Nat.le_of_not_lt outside
      rw [List.drop_of_length_le bound, List.append_nil]

theorem toList_toUTF8_singleton (c : Char) :
    (String.singleton c).toUTF8.toList = String.utf8EncodeChar c := by
  rw [String.toUTF8_eq_toByteArray, String.toByteArray_singleton, List.utf8Encode_singleton,
    ByteArray.toList, toList_loop, List.toList_data_toByteArray]
  rfl

theorem byteChars_cons (c : Char) (rest : List Char) :
    (IsAscii c ∧ byteChars (c :: rest) = c :: byteChars rest) ∨
      (¬IsAscii c ∧ ∃ first more, byteChars (c :: rest) = first :: more ∧ ¬IsAscii first) := by
  have split : byteChars (c :: rest) = byteChars [c] ++ byteChars rest := byteChars_append [c] rest
  by_cases ascii : IsAscii c
  · exact .inl ⟨ascii, by rw [split, byteChars_of_isAscii ascii]; rfl⟩
  · refine .inr ⟨ascii, ?_⟩
    obtain ⟨byte, bytes, encoded⟩ : ∃ byte bytes, String.utf8EncodeChar c = byte :: bytes :=
      List.exists_cons_of_ne_nil String.utf8EncodeChar_ne_nil
    refine ⟨Char.ofNat byte.toNat, bytes.map (fun other => Char.ofNat other.toNat) ++ byteChars rest,
      ?_, ?_⟩
    · rw [split, byteChars, List.flatMap_singleton, encoded, List.map_cons, List.cons_append]
    · have wide := le_of_mem_utf8EncodeChar ascii byte (by rw [encoded]; exact List.mem_cons_self)
      rw [IsAscii, toNat_ofNat_byte]
      omega

/-! ## Reading bytes for characters

A reader that looks for characters of ASCII finds them among the bytes as in the text. -/

def SeeksAscii (holds : Char → Bool) : Prop := ∀ c, holds c = true → IsAscii c

theorem SeeksAscii.eq_false {holds : Char → Bool} (seeks : SeeksAscii holds) {c : Char}
    (wide : ¬IsAscii c) : holds c = false :=
  Bool.eq_false_iff.mpr fun found => wide (seeks c found)

theorem takeWhile_byteChars {holds : Char → Bool} (seeks : SeeksAscii holds) (text : List Char) :
    (byteChars text).takeWhile holds = text.takeWhile holds := by
  induction text with
  | nil => rfl
  | cons c rest induction =>
      rcases byteChars_cons c rest with ⟨-, same⟩ | ⟨wide, first, more, same, wideFirst⟩
      · rw [same, List.takeWhile_cons, List.takeWhile_cons, induction]
      · rw [same, List.takeWhile_cons, List.takeWhile_cons, seeks.eq_false wide,
          seeks.eq_false wideFirst]
        rfl

theorem byteChars_eq_self {text : List Char} (ascii : ∀ c ∈ text, IsAscii c) :
    byteChars text = text := by
  induction text with
  | nil => rfl
  | cons c rest induction =>
      have more := induction fun other member => ascii other (List.mem_cons_of_mem c member)
      rcases byteChars_cons c rest with ⟨-, same⟩ | ⟨wide, -⟩
      · rw [same, more]
      · exact absurd (ascii c List.mem_cons_self) wide

theorem drop_utf8Length_byteChars (before rest : List Char) :
    (byteChars (before ++ rest)).drop (utf8Length before) = byteChars rest := by
  rw [byteChars_append, ← length_byteChars, List.drop_left]

theorem drop_byteChars {front : List Char} (ascii : ∀ c ∈ front, IsAscii c) (rest : List Char) :
    (byteChars (front ++ rest)).drop front.length = byteChars rest := by
  rw [byteChars_append, byteChars_eq_self ascii, List.drop_left]

end LiterateTest.Text
