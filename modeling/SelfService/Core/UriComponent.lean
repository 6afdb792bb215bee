/-
Percent-encoded text, read back.

A component consists of unreserved characters and escapes only, so none of the
characters that delimit the parts of a URL occurs in it.  `decodeURIComponent`
undoes `encodeURIComponent`.
-/

import SelfService.Caching.CacheStore

namespace SelfService

/-- The value of a hexadecimal digit. -/
def hexValue (symbol : Char) : Option Nat :=
  let code := symbol.toNat
  if 48 ≤ code ∧ code ≤ 57 then some (code - 48)
  else if 65 ≤ code ∧ code ≤ 70 then some (code - 55)
  else if 97 ≤ code ∧ code ≤ 102 then some (code - 87)
  else none

/-- The byte of an escape at the head of a text. -/
def escapeValue : List Char → Option Nat
  | '%' :: high :: low :: _ => do
      let first ← hexValue high
      let second ← hexValue low
      some (16 * first + second)
  | _ => none

/-- An escape stands for its byte, another character for its own bytes.  The digits of an escape
that has been read are skipped. -/
def percentDecode : Nat → List Char → List Nat
  | _, [] => []
  | skipped + 1, _ :: rest => percentDecode skipped rest
  | 0, symbol :: rest =>
      match escapeValue (symbol :: rest) with
      | some byte => byte :: percentDecode 2 rest
      | none => utf8 symbol ++ percentDecode 0 rest

/-- `code` has been read of a character that lacks `missing` bytes; what has been read of it, and
what it lacks, after one more byte. -/
def utf8Step (code missing byte : Nat) : Nat × Nat :=
  if missing = 0 then
    if byte < 128 then (byte, 0)
    else if byte < 224 then (byte - 192, 1)
    else if byte < 240 then (byte - 224, 2)
    else (byte - 240, 3)
  else (64 * code + (byte - 128), missing - 1)

/-- Reads well-formed UTF-8. -/
def utf8Decode (code missing : Nat) : List Nat → List Char
  | [] => []
  | byte :: rest =>
      let (read, lacking) := utf8Step code missing byte
      if lacking = 0 then Char.ofNat read :: utf8Decode 0 0 rest
      else utf8Decode read lacking rest

def decodeURIComponent (text : String) : String :=
  String.ofList (utf8Decode 0 0 (percentDecode 0 text.toList))

example : decodeURIComponent "a%20b%2F%C4%91" = "a b/đ" := by decide +kernel

/-- The characters that need no escape. -/
def unreserved (symbol : Char) : Bool :=
  symbol.isAlphanum || "-_.!~*'()".toList.contains symbol

def hexDigit (value : Nat) : Char := "0123456789ABCDEF".toList.getD value '0'

def escaped (byte : Nat) : List Char := ['%', hexDigit (byte / 16), hexDigit (byte % 16)]

/-- What one character is encoded as. -/
def escapedChar (symbol : Char) : List Char :=
  if unreserved symbol then [symbol] else (utf8 symbol).flatMap escaped

theorem encodeURIComponent_toList (text : String) :
    (encodeURIComponent text).toList = text.toList.flatMap escapedChar := by
  rw [encodeURIComponent, String.toList_ofList]
  rfl

/-! ### Bytes -/

theorem toNat_lt (symbol : Char) : symbol.toNat < 1114112 := by
  have valid := symbol.valid
  change symbol.toNat < 55296 ∨ 57343 < symbol.toNat ∧ symbol.toNat < 1114112 at valid
  omega

theorem utf8_lt (symbol : Char) : ∀ byte ∈ utf8 symbol, byte < 256 := by
  have bound := toNat_lt symbol
  intro byte member
  unfold utf8 at member
  simp only at member
  split at member
  · simp only [List.mem_singleton] at member
    omega
  · split at member
    · simp only [List.mem_cons, List.not_mem_nil, or_false] at member
      omega
    · split at member <;>
      · simp only [List.mem_cons, List.not_mem_nil, or_false] at member
        omega

theorem utf8Decode_last {code missing byte read : Nat}
    (step : utf8Step code missing byte = (read, 0)) (rest : List Nat) :
    utf8Decode code missing (byte :: rest) = Char.ofNat read :: utf8Decode 0 0 rest := by
  rw [utf8Decode, step]
  exact if_pos rfl

theorem utf8Decode_more {code missing byte read lacking : Nat}
    (step : utf8Step code missing byte = (read, lacking + 1)) (rest : List Nat) :
    utf8Decode code missing (byte :: rest) = utf8Decode read (lacking + 1) rest := by
  rw [utf8Decode, step]
  exact if_neg (Nat.succ_ne_zero lacking)

theorem utf8Step_more (code missing : Nat) {byte : Nat} :
    utf8Step code (missing + 1) byte = (64 * code + (byte - 128), missing) := by
  rw [utf8Step, if_neg (Nat.succ_ne_zero missing), Nat.add_sub_cancel]

theorem utf8Decode_utf8 (symbol : Char) (rest : List Nat) :
    utf8Decode 0 0 (utf8 symbol ++ rest) = symbol :: utf8Decode 0 0 rest := by
  have read : ∀ code : Nat, code = symbol.toNat → Char.ofNat code = symbol := by
    intro code same
    rw [same]
    exact Char.ofNat_toNat symbol
  have bound := toNat_lt symbol
  unfold utf8
  generalize symbol.toNat = code at read bound
  -- One case for each length of the encoding.
  by_cases one : code < 128
  · have first : utf8Step 0 0 code = (code, 0) := by
      rw [utf8Step, if_pos rfl, if_pos one]
    simp only [if_pos one, List.cons_append, List.nil_append]
    rw [utf8Decode_last first, read code rfl]
  by_cases two : code < 2048
  · have first : utf8Step 0 0 (192 + code / 64) = (192 + code / 64 - 192, 0 + 1) := by
      rw [utf8Step, if_pos rfl, if_neg (by omega), if_pos (by omega)]
    simp only [if_neg one, if_pos two, List.cons_append, List.nil_append]
    rw [utf8Decode_more first, utf8Decode_last (utf8Step_more _ 0), read _ (by omega)]
  by_cases three : code < 65536
  · have first : utf8Step 0 0 (224 + code / 4096) = (224 + code / 4096 - 224, 1 + 1) := by
      rw [utf8Step, if_pos rfl, if_neg (by omega), if_neg (by omega), if_pos (by omega)]
    simp only [if_neg one, if_neg two, if_pos three, List.cons_append, List.nil_append]
    rw [utf8Decode_more first, utf8Decode_more (utf8Step_more _ 1),
      utf8Decode_last (utf8Step_more _ 0), read _ (by omega)]
  · have first : utf8Step 0 0 (240 + code / 262144) = (240 + code / 262144 - 240, 2 + 1) := by
      rw [utf8Step, if_pos rfl, if_neg (by omega), if_neg (by omega), if_neg (by omega)]
    simp only [if_neg one, if_neg two, if_neg three, List.cons_append, List.nil_append]
    rw [utf8Decode_more first, utf8Decode_more (utf8Step_more _ 2),
      utf8Decode_more (utf8Step_more _ 1), utf8Decode_last (utf8Step_more _ 0), read _ (by omega)]

theorem utf8Decode_flatMap (symbols : List Char) :
    utf8Decode 0 0 (symbols.flatMap utf8) = symbols := by
  induction symbols with
  | nil => rfl
  | cons symbol rest ih => rw [List.flatMap_cons, utf8Decode_utf8, ih]

/-! ### Escapes -/

theorem hexValue_hexDigit {value : Nat} (small : value < 16) :
    hexValue (hexDigit value) = some value := by
  have all : ∀ digit : Fin 16, hexValue (hexDigit digit) = some digit.val := by decide
  exact all ⟨value, small⟩

theorem percentDecode_escaped {byte : Nat} (small : byte < 256) (rest : List Char) :
    percentDecode 0 (escaped byte ++ rest) = byte :: percentDecode 0 rest := by
  have whole : 16 * (byte / 16) + byte % 16 = byte := by omega
  have value : escapeValue (escaped byte ++ rest) = some byte := by
    simp only [escaped, List.cons_append, List.nil_append, escapeValue,
      hexValue_hexDigit (show byte / 16 < 16 by omega),
      hexValue_hexDigit (show byte % 16 < 16 by omega), Option.bind_eq_bind, Option.bind_some,
      whole]
  simp only [escaped, List.cons_append, List.nil_append] at value ⊢
  rw [percentDecode, value]
  rfl

theorem percentDecode_escapes {bytes : List Nat} (small : ∀ byte ∈ bytes, byte < 256)
    (rest : List Char) :
    percentDecode 0 (bytes.flatMap escaped ++ rest) = bytes ++ percentDecode 0 rest := by
  induction bytes with
  | nil => rfl
  | cons byte others ih =>
      rw [List.flatMap_cons, List.append_assoc,
        percentDecode_escaped (small byte List.mem_cons_self),
        ih fun other member => small other (List.mem_cons_of_mem byte member), List.cons_append]

theorem percentDecode_plain {symbol : Char} (plain : symbol ≠ '%') (rest : List Char) :
    percentDecode 0 (symbol :: rest) = utf8 symbol ++ percentDecode 0 rest := by
  have value : escapeValue (symbol :: rest) = none := by
    unfold escapeValue
    split
    · next heads =>
        exact absurd (List.cons.inj heads).1 plain
    · rfl
  rw [percentDecode, value]

theorem percentDecode_escapedChar (symbol : Char) (rest : List Char) :
    percentDecode 0 (escapedChar symbol ++ rest) = utf8 symbol ++ percentDecode 0 rest := by
  unfold escapedChar
  split
  · next plain =>
      have different : symbol ≠ '%' := by
        rintro rfl
        exact absurd plain (by decide)
      exact percentDecode_plain different rest
  · exact percentDecode_escapes (utf8_lt symbol) rest

theorem percentDecode_flatMap (symbols : List Char) :
    percentDecode 0 (symbols.flatMap escapedChar) = symbols.flatMap utf8 := by
  induction symbols with
  | nil => rfl
  | cons symbol rest ih => rw [List.flatMap_cons, percentDecode_escapedChar, ih, List.flatMap_cons]

@[simp] theorem decodeURIComponent_encodeURIComponent (text : String) :
    decodeURIComponent (encodeURIComponent text) = text := by
  rw [decodeURIComponent, encodeURIComponent_toList, percentDecode_flatMap, utf8Decode_flatMap,
    String.ofList_toList]

/-! ### Characters -/

/-- The characters a component may have. -/
def componentChar (symbol : Char) : Bool := unreserved symbol || symbol == '%'

theorem hexDigit_unreserved (value : Nat) : unreserved (hexDigit value) = true := by
  by_cases small : value < 16
  · have all : ∀ digit : Fin 16, unreserved (hexDigit digit) = true := by decide
    exact all ⟨value, small⟩
  · have zero : hexDigit value = '0' := by
      rw [hexDigit, List.getD_eq_getElem?_getD,
        List.getElem?_eq_none (Nat.le_of_not_lt small), Option.getD_none]
    rw [zero]
    rfl

theorem componentChar_encodeURIComponent (text : String) :
    ∀ symbol ∈ (encodeURIComponent text).toList, componentChar symbol = true := by
  intro symbol member
  rw [encodeURIComponent_toList, List.mem_flatMap] at member
  obtain ⟨source, _, member⟩ := member
  unfold escapedChar at member
  split at member
  · next plain =>
      rw [List.mem_singleton.mp member, componentChar, plain, Bool.true_or]
  · obtain ⟨byte, _, digit⟩ := List.mem_flatMap.mp member
    simp only [escaped, List.mem_cons, List.not_mem_nil, or_false] at digit
    rcases digit with rfl | rfl | rfl
    · rfl
    · rw [componentChar, hexDigit_unreserved, Bool.true_or]
    · rw [componentChar, hexDigit_unreserved, Bool.true_or]

/-- No character outside the alphabet of components occurs in one. -/
theorem not_mem_component {symbol : Char} (outside : componentChar symbol = false) (text : String) :
    symbol ∉ (encodeURIComponent text).toList := by
  intro member
  rw [componentChar_encodeURIComponent text symbol member] at outside
  exact Bool.noConfusion outside

end SelfService
