/-
Which ciphertexts are opened.

`decrypt` takes the first three segments of a text and reads them leniently, so
besides a ciphertext itself it opens other spellings of it.
-/

import SelfService.Auth.PiiEncryptionService
import Mathlib.Logic.Equiv.Basic

namespace SelfService

open Data

/-- The tag lengths in bytes that the platform accepts for GCM. -/
def tagLengths : List Nat := [4, 8, 12, 13, 14, 15, 16]

/-- An ideal authenticated cipher opens exactly what it sealed.  The tag may be cut to one of
the accepted lengths. -/
structure AesGcm.Ideal (aes : AesGcm) : Prop where
  tagged : ∀ iv text, (aes.encipher iv text).1.length = 16
  sized : ∀ iv text, (aes.encipher iv text).2.length = (bytesOf text).length
  opens_iff : ∀ iv tag encrypted text, aes.decipher iv tag encrypted = some text ↔
    ∃ known : Iv, known.bytes = iv ∧ tag.length ∈ tagLengths ∧
      tag <+: (aes.encipher known text).1 ∧ (aes.encipher known text).2 = encrypted

namespace PiiEncryptionService

def isHex (part : List Char) : Bool := part.all fun symbol => Hex.digits.contains symbol

/-- Of the form that `encrypt` writes. -/
def canonical (ciphertext : String) : Bool :=
  match ciphertext.toList.splitOn ':' with
  | [ivHex, authTagHex, encrypted] =>
      isHex ivHex && ivHex.length = 32 && isHex authTagHex && authTagHex.length = 32 &&
        isHex encrypted && encrypted.length % 2 = 0
  | _ => false

/-- Of a form that `decrypt` hands to the decipher. -/
def readable (ciphertext : String) : Bool :=
  match ciphertext.toList.splitOn ':' with
  | ivHex :: authTagHex :: encrypted :: _ =>
      (Hex.decode ivHex).length = 16 && tagLengths.contains (Hex.decode authTagHex).length &&
        codeUnits encrypted % 2 = 0
  | _ => false

/-- Whatever the cipher, this text is opened only as the output of an encryption. -/
def OpensAsOutput (ciphertext : String) : Prop :=
  ∀ aes : AesGcm, aes.Ideal → ∀ plaintext, decrypt aes ciphertext = .ok plaintext →
    ∃ iv text, ciphertext = encrypt aes iv text

theorem isHex_iff {part : List Char} : isHex part = true ↔ ∀ symbol ∈ part, symbol ∈ Hex.digits := by
  simp [isHex]

theorem isHex_encode (bytes : List UInt8) : isHex (Hex.encode bytes) = true :=
  isHex_iff.mpr fun _ member => Hex.mem_digits_of_mem_encode member

theorem canonical_encrypt {aes : AesGcm} (ideal : aes.Ideal) (iv : Iv) (text : String) :
    canonical (encrypt aes iv text) = true := by
  unfold canonical
  rw [splitOn_encrypt]
  simp [isHex_encode, Hex.length_encode, iv.size, ideal.tagged]

/-- A text is its segments. -/
theorem eq_of_splitOn {ciphertext : String} {first second third : List Char}
    (segments : ciphertext.toList.splitOn ':' = [first, second, third]) :
    ciphertext = String.ofList (first ++ ':' :: (second ++ ':' :: third)) := by
  have joined : [':'].intercalate (ciphertext.toList.splitOn ':') = ciphertext.toList :=
    List.intercalate_splitOn ':'
  rw [segments] at joined
  rw [← String.ofList_toList (s := ciphertext), ← joined]
  simp [List.intercalate]

/-- What is opened is readable. -/
theorem readable_of_decrypt {aes : AesGcm} (ideal : aes.Ideal) {ciphertext plaintext : String}
    (opened : decrypt aes ciphertext = .ok plaintext) : readable ciphertext = true := by
  unfold decrypt at opened
  split at opened
  · split at opened
    · cases opened
    · rename_i even
      split at opened
      · rename_i segments _ text deciphered
        obtain ⟨known, same, sized, -, -⟩ := (ideal.opens_iff _ _ _ _).mp deciphered
        rw [readable, segments]
        simp only [Bool.and_eq_true, decide_eq_true_eq, List.contains_iff_mem]
        refine ⟨⟨?_, sized⟩, by omega⟩
        rw [← same, known.size]
      · cases opened
  · cases opened

/-- A text of the right form is opened as what it is. -/
theorem output_of_canonical {aes : AesGcm} (ideal : aes.Ideal) {ciphertext plaintext : String}
    (form : canonical ciphertext = true) (opened : decrypt aes ciphertext = .ok plaintext) :
    ∃ iv, ciphertext = encrypt aes iv plaintext := by
  unfold canonical at form
  split at form
  · rename_i ivHex authTagHex encrypted segments
    simp only [Bool.and_eq_true, decide_eq_true_eq, isHex_iff] at form
    obtain ⟨⟨⟨⟨⟨ivDigits, ivLength⟩, tagDigits⟩, tagLength⟩, digits⟩, even⟩ := form
    rw [decrypt, segments] at opened
    simp only [codeUnits_digits digits, even, Nat.zero_ne_one, if_false] at opened
    split at opened
    · rename_i text deciphered
      cases opened
      obtain ⟨known, sameIv, -, sameTag, sameText⟩ := (ideal.opens_iff _ _ _ _).mp deciphered
      have tagBytes := Hex.length_decode tagDigits (by omega)
      have wholeTag : Hex.decode authTagHex = (aes.encipher known plaintext).1 :=
        sameTag.eq_of_length (by rw [ideal.tagged]; omega)
      refine ⟨known, ?_⟩
      rw [eq_of_splitOn segments, encrypt, sameIv, ← wholeTag, sameText, Hex.encode_decode ivDigits (by omega),
        Hex.encode_decode tagDigits (by omega), Hex.encode_decode digits even]
    · cases opened
  · cases form

/-! ### A cipher that opens a readable text -/

theorem bytesOf_of_decoded {bytes : List UInt8} {text : String} (same : decoded bytes = some text) :
    bytesOf text = bytes := by
  unfold decoded String.fromUTF8? at same
  split at same
  · cases same
    rfl
  · cases same

theorem decoded_eq_some {bytes : List UInt8} {text : String} :
    decoded bytes = some text ↔ bytesOf text = bytes := by
  constructor
  · exact bytesOf_of_decoded
  · rintro rfl
    exact decoded_bytesOf text

/-- A plaintext of as many bytes. -/
def filler (size : Nat) : String := String.ofList (List.replicate size 'a')

theorem length_filler (size : Nat) : (bytesOf (filler size)).length = size := by
  have bytes : ∀ count, (List.replicate count 'a').utf8Encode.size = count := by
    intro count
    induction count with
    | zero => rfl
    | succ count ih => rw [List.replicate_succ, List.utf8Encode_cons, ByteArray.size_append, ih,
        List.utf8Encode_singleton, Nat.add_comm]; rfl
  simp [bytesOf, filler, bytes]

/-- The filler and the encrypted bytes change places. -/
def shuffle (encrypted : List UInt8) : Equiv.Perm (List UInt8) :=
  Equiv.swap (bytesOf (filler encrypted.length)) encrypted

theorem length_shuffle (encrypted bytes : List UInt8) :
    (shuffle encrypted bytes).length = bytes.length := by
  unfold shuffle
  rw [Equiv.swap_apply_def]
  split
  · rename_i same
    rw [same, length_filler]
  · split
    · rename_i same
      rw [same, length_filler]
    · rfl

theorem shuffle_shuffle (encrypted bytes : List UInt8) :
    shuffle encrypted (shuffle encrypted bytes) = bytes :=
  Equiv.swap_apply_self _ _ bytes

/-- The whole tag that begins with these bytes. -/
def fullTag (tag : List UInt8) : List UInt8 := tag ++ List.replicate (16 - tag.length) 0

theorem length_fullTag {tag : List UInt8} (short : tag.length ≤ 16) : (fullTag tag).length = 16 := by
  simp [fullTag]
  omega

/-- An ideal cipher under which these encrypted bytes are the filler's. -/
def opening (tag encrypted : List UInt8) (short : tag.length ≤ 16) : AesGcm where
  encipher _ text := (fullTag tag, shuffle encrypted (bytesOf text))
  decipher iv cut bytes :=
    if iv.length = 16 ∧ cut.length ∈ tagLengths ∧ cut <+: fullTag tag then
      decoded (shuffle encrypted bytes)
    else none
  decipher_encipher iv text := by
    have whole : (fullTag tag).length ∈ tagLengths := by
      rw [length_fullTag short]
      decide
    rw [if_pos ⟨iv.size, whole, List.prefix_refl _⟩, shuffle_shuffle, decoded_bytesOf]

theorem opening_ideal (tag encrypted : List UInt8) (short : tag.length ≤ 16) :
    (opening tag encrypted short).Ideal := by
  constructor
  · exact fun _ _ => length_fullTag short
  · exact fun _ text => length_shuffle encrypted (bytesOf text)
  · intro iv cut bytes text
    simp only [opening]
    constructor
    · intro opened
      split at opened
      · rename_i accepted
        obtain ⟨ivLength, cutLength, begins⟩ := accepted
        refine ⟨⟨iv, ivLength⟩, rfl, cutLength, begins, ?_⟩
        rw [decoded_eq_some.mp opened, shuffle_shuffle]
      · cases opened
    · rintro ⟨known, rfl, cutLength, begins, rfl⟩
      rw [if_pos ⟨known.size, cutLength, begins⟩, shuffle_shuffle, decoded_bytesOf]

/-- Every readable text is opened under some key. -/
theorem opened_of_readable {ciphertext : String} (read : readable ciphertext = true) :
    ∃ aes : AesGcm, aes.Ideal ∧ ∃ plaintext, decrypt aes ciphertext = .ok plaintext := by
  unfold readable at read
  split at read
  · rename_i ivHex authTagHex encrypted rest segments
    simp only [Bool.and_eq_true, decide_eq_true_eq, List.contains_iff_mem] at read
    obtain ⟨⟨ivLength, tagLength⟩, even⟩ := read
    have short : (Hex.decode authTagHex).length ≤ 16 := by
      have bounded : ∀ size ∈ tagLengths, size ≤ 16 := by decide
      exact bounded _ tagLength
    have begins : Hex.decode authTagHex <+: fullTag (Hex.decode authTagHex) := List.prefix_append _ _
    refine ⟨opening _ (Hex.decode encrypted) short, opening_ideal _ _ short,
      filler (Hex.decode encrypted).length, ?_⟩
    have deciphered : (opening (Hex.decode authTagHex) (Hex.decode encrypted) short).decipher
        (Hex.decode ivHex) (Hex.decode authTagHex) (Hex.decode encrypted) =
          some (filler (Hex.decode encrypted).length) := by
      rw [opening]
      simp only
      rw [if_pos ⟨ivLength, tagLength, begins⟩, shuffle, Equiv.swap_apply_right, decoded_bytesOf]
    rw [decrypt, segments]
    simp only [even, deciphered]
    rfl
  · cases read

/-- A text is opened only as the output of an encryption exactly if it has the form of one,
or if no key opens it. -/
theorem opensAsOutput_iff (ciphertext : String) :
    OpensAsOutput ciphertext ↔ canonical ciphertext = true ∨ readable ciphertext = false := by
  constructor
  · intro only
    by_cases read : readable ciphertext = true
    · obtain ⟨aes, ideal, plaintext, opened⟩ := opened_of_readable read
      obtain ⟨iv, text, rfl⟩ := only aes ideal plaintext opened
      exact .inl (canonical_encrypt ideal iv text)
    · exact .inr (Bool.not_eq_true _ ▸ read)
  · rintro (form | unread) aes ideal plaintext opened
    · obtain ⟨iv, same⟩ := output_of_canonical ideal form opened
      exact ⟨iv, plaintext, same⟩
    · rw [readable_of_decrypt ideal opened] at unread
      cases unread

/-- Encryptions are read back; and a text is opened only as the output of one exactly if it
has that form or is not read at all. -/
theorem ciphertext_codec (aes : AesGcm) (iv : Iv) (plaintext ciphertext : String) :
    decrypt aes (encrypt aes iv plaintext) = .ok plaintext ∧
      (OpensAsOutput ciphertext ↔ canonical ciphertext = true ∨ readable ciphertext = false) :=
  ⟨decrypt_encrypt aes iv plaintext, opensAsOutput_iff ciphertext⟩

/-- Another segment after a ciphertext is ignored. -/
def trailing : String :=
  "0f0e0d0c0b0a09080706050403020100:146e5c1755996d406dbc9c9a02ae7f45:ea9ebf31343e6708e850:x"

theorem trailing_is_opened : ¬ OpensAsOutput trailing := by
  rw [opensAsOutput_iff]
  decide +kernel

end PiiEncryptionService

end SelfService
