/-
Encryption of personal data at rest.

A ciphertext is `iv:authTag:encrypted`, each part in hexadecimal.  AES-256-GCM
itself belongs to the platform: it is a parameter, with the law that deciphering
what was enciphered gives the text back.
-/

import SelfService.Caching.CacheStore
import SelfService.Core.Exceptions
import SelfService.Data.Hex

namespace SelfService

open Data

/-- The sixteen random bytes of one encryption. -/
structure Iv where
  bytes : List UInt8
  size : bytes.length = 16
  deriving DecidableEq

/-- AES-256-GCM under the configured key.  `encipher` gives the tag and the encrypted
bytes of a text; `decipher` fails as the decipher of the platform does. -/
structure AesGcm where
  encipher : Iv → String → List UInt8 × List UInt8
  decipher : List UInt8 → List UInt8 → List UInt8 → Option String
  decipher_encipher : ∀ iv text,
    decipher iv.bytes (encipher iv text).1 (encipher iv text).2 = some text

/-! ### A cipher known by its outputs -/

/-- What the platform made of a text. -/
structure Sealed where
  iv : Iv
  text : String
  tag : List UInt8
  encrypted : List UInt8

/-- The same box never holds two texts, and every tag has its sixteen bytes. -/
def Sealed.consistent (outputs : List Sealed) : Bool :=
  outputs.all fun one => one.tag.length = 16 && outputs.all fun other =>
    one.iv ≠ other.iv || one.tag ≠ other.tag || one.encrypted ≠ other.encrypted ||
      one.text = other.text

def bytesOf (text : String) : List UInt8 := text.toUTF8.data.toList

def decoded (bytes : List UInt8) : Option String := String.fromUTF8? ⟨bytes.toArray⟩

theorem decoded_bytesOf (text : String) : decoded (bytesOf text) = some text := by
  have same : (⟨(bytesOf text).toArray⟩ : ByteArray) = text.toUTF8 := by simp [bytesOf]
  rw [decoded, same, String.fromUTF8?]
  exact dif_pos text.isValidUTF8

/-- A cipher that agrees with known outputs; any other text goes into an untagged box. -/
def AesGcm.recorded (outputs : List Sealed) (consistent : Sealed.consistent outputs = true) :
    AesGcm where
  encipher iv text :=
    match outputs.find? fun known => known.iv = iv && known.text = text with
    | some known => (known.tag, known.encrypted)
    | none => ([], bytesOf text)
  decipher iv tag encrypted :=
    match outputs.find? fun known =>
        known.iv.bytes = iv && known.tag = tag && known.encrypted = encrypted with
    | some known => some known.text
    | none => decoded encrypted
  decipher_encipher iv text := by
    have checked := List.all_eq_true.mp consistent
    cases found : outputs.find? fun known => known.iv = iv && known.text = text with
    | some known =>
        have same := List.find?_some found
        have member := List.mem_of_find?_eq_some found
        rw [Bool.and_eq_true, decide_eq_true_eq, decide_eq_true_eq] at same
        obtain ⟨rfl, rfl⟩ := same
        simp only
        split
        · rename_i other opened
          have matches_ := List.find?_some opened
          simp only [Bool.and_eq_true, decide_eq_true_eq] at matches_
          obtain ⟨⟨sameIv, sameTag⟩, sameBytes⟩ := matches_
          obtain ⟨-, apart⟩ := Bool.and_eq_true_iff.mp (checked other (List.mem_of_find?_eq_some opened))
          have agrees := List.all_eq_true.mp apart known member
          obtain ⟨⟨bytes, size⟩, text, tag, encrypted⟩ := other
          obtain ⟨⟨knownBytes, knownSize⟩, knownText, knownTag, knownEncrypted⟩ := known
          simp_all
        · rename_i missed
          have absent := List.find?_eq_none.mp missed known member
          simp at absent
    | none =>
        simp only
        split
        · rename_i other opened
          have matches_ := List.find?_some opened
          simp only [Bool.and_eq_true, decide_eq_true_eq] at matches_
          obtain ⟨sized, -⟩ := Bool.and_eq_true_iff.mp (checked other (List.mem_of_find?_eq_some opened))
          simp [matches_.1.2] at sized
        · exact decoded_bytesOf text

namespace PiiEncryptionService

variable (aes : AesGcm)

def encrypt (iv : Iv) (plaintext : String) : String :=
  let box := aes.encipher iv plaintext
  String.ofList (Hex.encode iv.bytes ++ ':' :: (Hex.encode box.1 ++ ':' :: Hex.encode box.2))

/-- The length of a text in JavaScript. -/
def codeUnits (text : List Char) : Nat := (text.flatMap utf16).length

def decrypt (ciphertext : String) : Except Exn String :=
  match ciphertext.toList.splitOn ':' with
  | ivHex :: authTagHex :: encrypted :: _ =>
      if codeUnits encrypted % 2 = 1 then
        .error (.error ("The argument 'encoding' is invalid for data of length " ++
          toString (codeUnits encrypted) ++ ". Received 'hex'"))
      else
        match aes.decipher (Hex.decode ivHex) (Hex.decode authTagHex) (Hex.decode encrypted) with
        | some plaintext => .ok plaintext
        | none => .error (.error "Unsupported state or unable to authenticate data")
  | _ => .error (.error "TypeError: The first argument must be of type string. Received undefined")

/-- Nothing is encrypted for an empty value. -/
def encryptIfNeeded (iv : Iv) (value : Option String) : Option String :=
  (value.filter fun text => text ≠ "").map (encrypt aes iv)

def decryptIfNeeded (value : Option String) : Except Exn (Option String) :=
  match value.filter fun text => text ≠ "" with
  | none => .ok none
  | some ciphertext => (decrypt aes ciphertext).map some

theorem splitOn_encrypt (iv : Iv) (plaintext : String) :
    (encrypt aes iv plaintext).toList.splitOn ':' =
      [Hex.encode iv.bytes, Hex.encode (aes.encipher iv plaintext).1,
        Hex.encode (aes.encipher iv plaintext).2] := by
  have foreign : ':' ∉ Hex.digits := by decide
  rw [encrypt, String.toList_ofList,
    List.splitOn_append_cons_self_of_not_mem (Hex.not_mem_encode foreign _),
    List.splitOn_append_cons_self_of_not_mem (Hex.not_mem_encode foreign _),
    List.splitOn_eq_singleton (Hex.not_mem_encode foreign _)]

/-- A digit is one code unit. -/
theorem codeUnits_digits {text : List Char} (digits : ∀ symbol ∈ text, symbol ∈ Hex.digits) :
    codeUnits text = text.length := by
  have checked : (Hex.digits.all fun symbol => (utf16 symbol).length = 1) = true := by decide
  have single (symbol : Char) (listed : symbol ∈ Hex.digits) : (utf16 symbol).length = 1 :=
    of_decide_eq_true (List.all_eq_true.mp checked symbol listed)
  induction text with
  | nil => rfl
  | cons symbol rest ih =>
      have later := ih fun other member => digits other (List.mem_cons_of_mem symbol member)
      unfold codeUnits at later ⊢
      rw [List.flatMap_cons, List.length_append, later,
        single symbol (digits symbol List.mem_cons_self), List.length_cons, Nat.add_comm]

theorem decrypt_encrypt (iv : Iv) (plaintext : String) :
    decrypt aes (encrypt aes iv plaintext) = .ok plaintext := by
  have even : codeUnits (Hex.encode (aes.encipher iv plaintext).2) % 2 = 0 := by
    rw [codeUnits_digits fun symbol member => Hex.mem_digits_of_mem_encode member, Hex.length_encode]
    exact Nat.mul_mod_right 2 _
  rw [decrypt, splitOn_encrypt]
  simp only [even, Hex.decode_encode, aes.decipher_encipher]
  rfl

theorem encrypt_ne_empty (iv : Iv) (plaintext : String) : encrypt aes iv plaintext ≠ "" := by
  intro same
  have lengths := congrArg List.length (splitOn_encrypt aes iv plaintext)
  rw [same] at lengths
  simp at lengths

/-- What was encrypted when needed is decrypted when needed. -/
theorem decryptIfNeeded_encryptIfNeeded (iv : Iv) {plaintext : String} (named : plaintext ≠ "") :
    decryptIfNeeded aes (encryptIfNeeded aes iv (some plaintext)) = .ok (some plaintext) := by
  have encrypted : encryptIfNeeded aes iv (some plaintext) = some (encrypt aes iv plaintext) := by
    simp [encryptIfNeeded, named]
  have present : (some (encrypt aes iv plaintext)).filter (fun text => decide (text ≠ "")) =
      some (encrypt aes iv plaintext) := by
    simp [encrypt_ne_empty]
  rw [encrypted, decryptIfNeeded, present]
  simp only [decrypt_encrypt]
  rfl

end PiiEncryptionService

end SelfService
