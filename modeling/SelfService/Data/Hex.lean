/-
Hexadecimal text.

`encode` writes two lower-case digits for each byte.  `decode` reads as a
lenient reader does: either case, up to the first pair that is no byte, and a
single digit at the end is dropped.
-/

import Mathlib.Data.List.Basic

namespace Data

namespace Hex

def digits : List Char := "0123456789abcdef".toList

def digit (value : Nat) : Char := digits.getD value '0'

def value (symbol : Char) : Option Nat := digits.findIdx? fun known => known == symbol.toLower

def encode : List UInt8 → List Char
  | [] => []
  | byte :: rest => digit (byte.toNat / 16) :: digit (byte.toNat % 16) :: encode rest

def decode : List Char → List UInt8
  | high :: low :: rest =>
      match value high, value low with
      | some upper, some lower => UInt8.ofNat (16 * upper + lower) :: decode rest
      | _, _ => []
  | _ => []

theorem value_digit {value : Nat} (small : value < 16) : Hex.value (digit value) = some value := by
  have checked : ∀ value ∈ List.range 16, Hex.value (digit value) = some value := by decide
  exact checked value (List.mem_range.mpr small)

theorem digit_mem {value : Nat} (small : value < 16) : digit value ∈ digits := by
  have checked : ∀ value ∈ List.range 16, digit value ∈ digits := by decide
  exact checked value (List.mem_range.mpr small)

theorem decode_encode (bytes : List UInt8) : decode (encode bytes) = bytes := by
  induction bytes with
  | nil => rfl
  | cons byte rest ih =>
      have bounded : byte.toNat < 256 := byte.toNat_lt
      have high : byte.toNat / 16 < 16 := by omega
      have low : byte.toNat % 16 < 16 := Nat.mod_lt _ (by omega)
      have joined : 16 * (byte.toNat / 16) + byte.toNat % 16 = byte.toNat := Nat.div_add_mod _ _
      rw [encode, decode, value_digit high, value_digit low]
      simp only
      rw [joined, UInt8.ofNat_toNat, ih]

theorem length_encode (bytes : List UInt8) : (encode bytes).length = 2 * bytes.length := by
  induction bytes with
  | nil => rfl
  | cons byte rest ih =>
      rw [encode, List.length_cons, List.length_cons, ih, List.length_cons]
      omega

theorem mem_digits_of_mem_encode {bytes : List UInt8} {symbol : Char}
    (member : symbol ∈ encode bytes) : symbol ∈ digits := by
  induction bytes with
  | nil => cases member
  | cons byte rest ih =>
      have bounded : byte.toNat < 256 := byte.toNat_lt
      rw [encode, List.mem_cons, List.mem_cons] at member
      rcases member with rfl | rfl | later
      · exact digit_mem (by omega)
      · exact digit_mem (Nat.mod_lt _ (by omega))
      · exact ih later

/-- A symbol that is no digit separates encoded texts. -/
theorem not_mem_encode {separator : Char} (foreign : separator ∉ digits) (bytes : List UInt8) :
    separator ∉ encode bytes :=
  fun member => foreign (mem_digits_of_mem_encode member)

/-- A lower-case digit is the digit of its value. -/
theorem digit_value {symbol : Char} (listed : symbol ∈ digits) :
    ∃ number, value symbol = some number ∧ number < 16 ∧ digit number = symbol := by
  have checked : (digits.all fun symbol => (List.range 16).any fun number =>
      value symbol = some number && digit number = symbol) = true := by decide
  obtain ⟨number, small, found⟩ := List.any_eq_true.mp (List.all_eq_true.mp checked symbol listed)
  rw [Bool.and_eq_true, decide_eq_true_eq, decide_eq_true_eq] at found
  exact ⟨number, found.1, List.mem_range.mp small, found.2⟩

/-- Whole pairs of lower-case digits are what their bytes are written as. -/
theorem encode_decode : ∀ {text : List Char}, (∀ symbol ∈ text, symbol ∈ digits) →
    text.length % 2 = 0 → encode (decode text) = text
  | [], _, _ => rfl
  | [_], _, even => by simp at even
  | high :: low :: rest, listed, even => by
      obtain ⟨upper, readUpper, smallUpper, writtenUpper⟩ := digit_value (listed high (by simp))
      obtain ⟨lower, readLower, smallLower, writtenLower⟩ := digit_value (listed low (by simp))
      have later : encode (decode rest) = rest := by
        apply encode_decode
        · exact fun symbol member => listed symbol (by simp [member])
        · simp only [List.length_cons] at even
          omega
      have joined : (UInt8.ofNat (16 * upper + lower)).toNat = 16 * upper + lower :=
        UInt8.toNat_ofNat_of_lt' (by simp [UInt8.size]; omega)
      have highPart : (16 * upper + lower) / 16 = upper := by omega
      have lowPart : (16 * upper + lower) % 16 = lower := by omega
      rw [decode, readUpper, readLower]
      simp only
      rw [encode, joined, highPart, lowPart, writtenUpper, writtenLower, later]

theorem length_decode {text : List Char} (listed : ∀ symbol ∈ text, symbol ∈ digits)
    (even : text.length % 2 = 0) : 2 * (decode text).length = text.length := by
  rw [← length_encode, encode_decode listed even]

end Hex

end Data
