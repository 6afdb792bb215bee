/-
The database hooks of better-auth and the blind index.

The hooks replace the email and the phone of a user by ciphertexts and add their
blind index.  In an update, `undefined` leaves a column as it is and `null`
clears it, so a ciphertext and its hash may part.
-/

import SelfService.Auth.PiiEncryptionService
import SelfService.Data.OrderedMap
import Mathlib.Data.List.Induction

namespace SelfService

open Data

namespace PiiEncryptionService

/-- HMAC-SHA256 under the derived key, in hexadecimal. -/
abbrev Hmac := String → String

def hashForLookup (hmac : Hmac) (plaintext : String) : String := hmac plaintext

/-- Nothing is hashed for an empty value. -/
def hashIfNeeded (hmac : Hmac) (value : Option String) : Option String :=
  (value.filter fun text => text ≠ "").map (hashForLookup hmac)

end PiiEncryptionService

namespace BetterAuth

open PiiEncryptionService

/-- A field of a record: `none` is `undefined`, `some none` is `null`. -/
abbrev Field := Option (Option String)

/-- The fields of a user record that the hooks read. -/
structure UserFields where
  email : Field
  phone : Field
  phoneNumber : Field
  deriving DecidableEq

/-- What a hook returns as `data`. -/
structure HookData where
  email : Field
  emailHash : Field
  phone : Field
  phoneHash : Field
  phoneNumber : Field

structure UserRow where
  email : Option String
  emailHash : Option String
  phone : Option String
  phoneHash : Option String
  phoneNumber : Option String
  deriving DecidableEq

/-- The random bytes of the two encryptions of a hook. -/
structure HookIvs where
  email : Iv
  phone : Iv

def readPhone (user : UserFields) : Option String := user.phoneNumber.join <|> user.phone.join

variable (aes : AesGcm) (hmac : Hmac)

/-- As `encryptIfNeeded(value) ?? undefined`. -/
def encryptedField (iv : Iv) (value : Option String) : Field := (encryptIfNeeded aes iv value).map some

def hashedField (value : Option String) : Field := some (hashIfNeeded hmac value)

def createBefore (ivs : HookIvs) (user : UserFields) : HookData where
  email := encryptedField aes ivs.email user.email.join
  emailHash := hashedField hmac user.email.join
  phone := encryptedField aes ivs.phone (readPhone user)
  phoneHash := hashedField hmac (readPhone user)
  phoneNumber := user.phoneNumber

def updateBefore (ivs : HookIvs) (user : UserFields) : HookData where
  email := match user.email with
    | some rawEmail => encryptedField aes ivs.email rawEmail
    | none => none
  emailHash := match user.email with
    | some rawEmail => hashedField hmac rawEmail
    | none => none
  phone := match readPhone user with
    | some rawPhone => encryptedField aes ivs.phone (some rawPhone)
    | none => user.phone
  phoneHash := match readPhone user with
    | some rawPhone => hashedField hmac (some rawPhone)
    | none => none
  phoneNumber := user.phoneNumber

/-! ### The table -/

def inserted (data : HookData) : UserRow where
  email := data.email.join
  emailHash := data.emailHash.join
  phone := data.phone.join
  phoneHash := data.phoneHash.join
  phoneNumber := data.phoneNumber.join

def updated (row : UserRow) (data : HookData) : UserRow where
  email := data.email.getD row.email
  emailHash := data.emailHash.getD row.emailHash
  phone := data.phone.getD row.phone
  phoneHash := data.phoneHash.getD row.phoneHash
  phoneNumber := data.phoneNumber.getD row.phoneNumber

inductive UserWrite : Type
  | create (id : String) (user : UserFields) (ivs : HookIvs)
  | update (id : String) (user : UserFields) (ivs : HookIvs)

abbrev UserTable := OrderedMap String UserRow

/-- A second row of one id is refused, and an update of no row does nothing. -/
def write (table : UserTable) : UserWrite → UserTable
  | .create id user ivs =>
      match table.get? id with
      | some _ => table
      | none => table.set id (inserted (createBefore aes hmac ivs user))
  | .update id user ivs =>
      match table.get? id with
      | some row => table.set id (updated row (updateBefore aes hmac ivs user))
      | none => table

def writeAll (writes : List UserWrite) : UserTable := writes.foldl (write aes hmac) .empty

/-! ### Ciphertext and hash in step -/

/-- The hash is the blind index of what the ciphertext decrypts to; both are null or none. -/
def InStep (ciphertext hash : Option String) : Prop :=
  match ciphertext with
  | none => hash = none
  | some text => ∃ plaintext, decrypt aes text = .ok plaintext ∧
      hash = some (hashForLookup hmac plaintext)

def RowInStep (row : UserRow) : Prop :=
  InStep aes hmac row.email row.emailHash ∧ InStep aes hmac row.phone row.phoneHash

def TableInStep (table : UserTable) : Prop :=
  ∀ id row, table.get? id = some row → RowInStep aes hmac row

def isEmpty (value : Option String) : Bool := (value.filter fun text => text ≠ "").isNone

/-- The write does not clear a stored value: no empty email comes for a stored one, and
neither an empty phone nor a null one without a number comes for a stored phone. -/
def sparesStored (table : UserTable) : UserWrite → Bool
  | .create _ _ _ => true
  | .update id user _ => (table.get? id).all fun row =>
      (row.email.isNone || !user.email.any isEmpty) &&
        (row.phone.isNone || match readPhone user with
          | some rawPhone => !isEmpty (some rawPhone)
          | none => user.phone ≠ some none)

variable {aes hmac}

/-- What the hook makes of a value, on an empty column. -/
theorem inStep_fields (iv : Iv) (value : Option String) :
    InStep aes hmac (encryptedField aes iv value).join (hashedField hmac value).join := by
  cases given : value.filter fun text => decide (text ≠ "") with
  | none =>
      have encrypted : encryptIfNeeded aes iv value = none := by rw [encryptIfNeeded, given]; rfl
      have hashed : hashIfNeeded hmac value = none := by rw [hashIfNeeded, given]; rfl
      rw [encryptedField, hashedField, encrypted, hashed]
      rfl
  | some text =>
      have encrypted : encryptIfNeeded aes iv value = some (encrypt aes iv text) := by
        rw [encryptIfNeeded, given]
        rfl
      have hashed : hashIfNeeded hmac value = some (hashForLookup hmac text) := by
        rw [hashIfNeeded, given]
        rfl
      rw [encryptedField, hashedField, encrypted, hashed]
      exact ⟨text, decrypt_encrypt aes iv text, rfl⟩

/-- A value that comes for a column leaves it in step unless it clears a stored one. -/
theorem inStep_given {ciphertext hash : Option String} (step : InStep aes hmac ciphertext hash)
    (iv : Iv) (value : Option String) :
    InStep aes hmac ((encryptedField aes iv value).getD ciphertext)
        ((hashedField hmac value).getD hash) ↔
      ciphertext.isNone = true ∨ isEmpty value = false := by
  have fields : InStep aes hmac (encryptedField aes iv value).join (hashedField hmac value).join :=
    inStep_fields iv value
  cases given : value.filter fun text => decide (text ≠ "") with
  | none =>
      have encrypted : encryptedField aes iv value = none := by
        rw [encryptedField, encryptIfNeeded, given]
        rfl
      have hashed : hashedField hmac value = some none := by
        rw [hashedField, hashIfNeeded, given]
        rfl
      have empty : isEmpty value = true := by rw [isEmpty, given]; rfl
      rw [encrypted, hashed, empty, Option.getD_none, Option.getD_some]
      cases ciphertext with
      | none => simp [InStep]
      | some text => simp [InStep]
  | some text =>
      have present : isEmpty value = false := by rw [isEmpty, given]; rfl
      have encrypted : encryptedField aes iv value = some (some (encrypt aes iv text)) := by
        rw [encryptedField, encryptIfNeeded, given]
        rfl
      rw [encrypted] at fields ⊢
      rw [present]
      simpa [hashedField] using fields

/-- A phone that is cleared without a number keeps its hash. -/
theorem inStep_spread {ciphertext hash : Option String} (step : InStep aes hmac ciphertext hash)
    {phone : Field} (blank : phone.join = none) :
    InStep aes hmac (phone.getD ciphertext) hash ↔ ciphertext.isNone = true ∨ phone ≠ some none := by
  rcases phone with _ | _ | text
  · simp [step]
  · cases ciphertext with
    | none => simp [show hash = none from step, InStep]
    | some text =>
        obtain ⟨plaintext, -, same⟩ := step
        simp [InStep, same]
  · cases blank

theorem rowInStep_inserted (ivs : HookIvs) (user : UserFields) :
    RowInStep aes hmac (inserted (createBefore aes hmac ivs user)) :=
  ⟨inStep_fields ivs.email user.email.join, inStep_fields ivs.phone (readPhone user)⟩

theorem emailInStep_updated {row : UserRow} (step : RowInStep aes hmac row) (ivs : HookIvs)
    (user : UserFields) :
    InStep aes hmac (updated row (updateBefore aes hmac ivs user)).email
        (updated row (updateBefore aes hmac ivs user)).emailHash ↔
      (row.email.isNone || !user.email.any isEmpty) = true := by
  unfold updated updateBefore
  cases given : user.email with
  | none => simpa using step.1
  | some rawEmail => simpa using inStep_given step.1 ivs.email rawEmail

theorem phoneInStep_updated {row : UserRow} (step : RowInStep aes hmac row) (ivs : HookIvs)
    (user : UserFields) :
    InStep aes hmac (updated row (updateBefore aes hmac ivs user)).phone
        (updated row (updateBefore aes hmac ivs user)).phoneHash ↔
      (row.phone.isNone || match readPhone user with
        | some rawPhone => !isEmpty (some rawPhone)
        | none => user.phone ≠ some none) = true := by
  unfold updated updateBefore
  cases read : readPhone user with
  | none =>
      have blank : user.phone.join = none := by
        unfold readPhone at read
        cases numbered : user.phoneNumber.join with
        | none => simpa [numbered] using read
        | some number => simp [numbered] at read
      simpa using inStep_spread step.2 blank
  | some rawPhone => simpa using inStep_given step.2 ivs.phone (some rawPhone)

/-- One write leaves the table in step exactly if it spares what is stored. -/
theorem tableInStep_write {table : UserTable} (step : TableInStep aes hmac table)
    (action : UserWrite) :
    TableInStep aes hmac (write aes hmac table action) ↔ sparesStored table action = true := by
  cases action with
  | create id user ivs =>
      cases found : table.get? id with
      | some row => simpa only [write, sparesStored, found, iff_true] using step
      | none =>
          simp only [write, sparesStored, found, iff_true]
          intro other row stored
          rw [OrderedMap.get?_set] at stored
          split at stored
          · cases stored
            exact rowInStep_inserted ivs user
          · exact step other row stored
  | update id user ivs =>
      cases found : table.get? id with
      | none => simpa only [write, sparesStored, found, Option.all_none, iff_true] using step
      | some row =>
          have current := step id row found
          simp only [write, sparesStored, found, Option.all_some, Bool.and_eq_true]
          rw [← emailInStep_updated current ivs user, ← phoneInStep_updated current ivs user]
          constructor
          · intro later
            exact later id _ (OrderedMap.get?_set_self _ _ _)
          · intro columns other changed stored
            rw [OrderedMap.get?_set] at stored
            split at stored
            · cases stored
              exact columns
            · exact step other changed stored

theorem tableInStep_empty : TableInStep aes hmac .empty := by
  intro id row found
  cases found

theorem writeAll_snoc (writes : List UserWrite) (last : UserWrite) :
    writeAll aes hmac (writes ++ [last]) = write aes hmac (writeAll aes hmac writes) last := by
  simp [writeAll]

/-- Along a sequence of writes every row is in step exactly if each write spares what is stored. -/
theorem blind_index_in_step (aes : AesGcm) (hmac : Hmac) (writes : List UserWrite) :
    (∀ early late, writes = early ++ late → TableInStep aes hmac (writeAll aes hmac early)) ↔
      ∀ early action late, writes = early ++ action :: late →
        sparesStored (writeAll aes hmac early) action = true := by
  constructor
  · intro always early action late split
    have before := always early (action :: late) split
    have after := always (early ++ [action]) late (by simp [split])
    rw [writeAll_snoc] at after
    exact (tableInStep_write before action).mp after
  · intro spares early
    induction early using List.reverseRecOn with
    | nil => exact fun _ _ => tableInStep_empty
    | append_singleton early action ih =>
        intro late split
        rw [List.append_assoc, List.singleton_append] at split
        rw [writeAll_snoc]
        exact (tableInStep_write (ih (action :: late) split) action).mpr
          (spares early action late split)

/-! ### An email that is cleared -/

def anyCipher : AesGcm := .recorded [] rfl

def anyHmac : Hmac := fun text => "hmac:" ++ text

def anyIvs : HookIvs := ⟨⟨List.replicate 16 0, rfl⟩, ⟨List.replicate 16 1, rfl⟩⟩

def withEmail : UserWrite := .create "u-1" ⟨some (some "a@example.com"), none, none⟩ anyIvs

def clearedEmail : UserWrite := .update "u-1" ⟨some none, none, none⟩ anyIvs

/-- The ciphertext stays and its hash is gone. -/
theorem cleared_email_parts :
    ¬ TableInStep anyCipher anyHmac (writeAll anyCipher anyHmac [withEmail, clearedEmail]) := by
  intro after
  have before : TableInStep anyCipher anyHmac (write anyCipher anyHmac .empty withEmail) :=
    (tableInStep_write tableInStep_empty withEmail).mpr rfl
  have spared := (tableInStep_write before clearedEmail).mp after
  revert spared
  decide +kernel

end BetterAuth

end SelfService
