/-
The in-memory cache service.

Each operation is one synchronous step on the map: JavaScript runs an `async`
method without an `await` to its end before anything else.  Values are kept as
they are, so what comes back is the object that went in.
-/

import SelfService.Caching.CacheStore

namespace SelfService

open Data

namespace MemoryCacheService

/-- The value read, with the map after an expired entry was dropped. -/
def get (options : CacheOptions) (now : Nat) (key : String) (cache : Store) : JsValue × Store :=
  let fullKey := getFullKey options key
  match cache.get? fullKey with
  | none => (.null, cache)
  | some entry =>
      if entry.expired now then (.null, cache.erase fullKey) else (entry.value, cache)

/-- Make room as `set` does: at the limit a new key pushes out the oldest one. -/
def evict (options : CacheOptions) (fullKey : String) (cache : Store) : Store :=
  if options.maxEntries ≤ cache.size && !cache.contains fullKey then
    match cache.keys with
    | firstKey :: _ => if firstKey = "" then cache else cache.erase firstKey
    | [] => cache
  else cache

def set (options : CacheOptions) (now : Nat) (key : String) (value : JsValue)
    (ttl : Option Nat) (cache : Store) : Store :=
  let fullKey := getFullKey options key
  let expiry := if ttl.getD 0 = 0 then none else some (now + ttl.getD 0 * 1000)
  (evict options fullKey cache).set fullKey ⟨value, expiry⟩

/-- Unlike `get`, this counts an entry as gone at its expiry already. -/
def setIfNotExist (options : CacheOptions) (now : Nat) (key : String) (value : JsValue)
    (ttl : Option Nat) (cache : Store) : Bool × Store :=
  match cache.get? (getFullKey options key) with
  | some entry =>
      if entry.expiry.all fun expiry => now < expiry then (false, cache)
      else (true, set options now key value ttl cache)
  | none => (true, set options now key value ttl cache)

def delete (options : CacheOptions) (key : String) (cache : Store) : Store :=
  cache.erase (getFullKey options key)

/-- Seconds left, rounded up; `-1` without an expiry and `-2` once it has passed. -/
def ttl (options : CacheOptions) (now : Nat) (key : String) (cache : Store) : Int :=
  match (cache.get? (getFullKey options key)).bind CacheEntry.expiry with
  | none => -1
  | some expiry => if now < expiry then ((expiry - now + 999) / 1000 : Nat) else -2

def selects (options : CacheOptions) (pattern fullKey : String) : Bool :=
  GlobToken.covers (globToRegex (encode utf16 (getFullKey options pattern)))
    (encode utf16 fullKey)

def deleteByPattern (options : CacheOptions) (pattern : String) (cache : Store) : Nat × Store :=
  let kept := cache.eraseWhere (selects options pattern)
  (cache.size - kept.size, kept)

/-- The interval timer of the constructor. -/
def cleanup (now : Nat) (cache : Store) : Store :=
  cache.eraseWhere fun key => (cache.get? key).any fun entry => entry.expired now

variable {options : CacheOptions} {now : Nat} {cache : Store}

theorem get_of_missing {key : String} (missing : cache.get? (getFullKey options key) = none) :
    get options now key cache = (.null, cache) := by
  simp [get, missing]

theorem get_of_expired {key : String} {entry : CacheEntry}
    (found : cache.get? (getFullKey options key) = some entry)
    (gone : entry.expired now = true) :
    get options now key cache = (.null, cache.erase (getFullKey options key)) := by
  simp [get, found, gone]

theorem get_of_live {key : String} {entry : CacheEntry}
    (found : cache.get? (getFullKey options key) = some entry)
    (fresh : entry.expired now = false) : get options now key cache = (entry.value, cache) := by
  simp [get, found, fresh]

theorem get_within (key : String) : (get options now key cache).2.Within cache := by
  cases found : cache.get? (getFullKey options key) with
  | none =>
      rw [get_of_missing found]
      exact cache.within_refl
  | some entry =>
      cases gone : entry.expired now with
      | true =>
          rw [get_of_expired found gone]
          exact cache.erase_within _
      | false =>
          rw [get_of_live found gone]
          exact cache.within_refl

/-- A value other than `null` comes from an entry that has not expired. -/
theorem get_found {key : String} {value : JsValue}
    (read : (get options now key cache).1 = value) (present : value ≠ .null) :
    ∃ entry, cache.get? (getFullKey options key) = some entry ∧
      entry.expired now = false ∧ entry.value = value := by
  cases found : cache.get? (getFullKey options key) with
  | none =>
      rw [get_of_missing found] at read
      exact absurd read.symm present
  | some entry =>
      cases gone : entry.expired now with
      | true =>
          rw [get_of_expired found gone] at read
          exact absurd read.symm present
      | false =>
          rw [get_of_live found gone] at read
          exact ⟨entry, rfl, gone, read⟩

theorem evict_within (fullKey : String) : (evict options fullKey cache).Within cache := by
  unfold evict
  split
  · split
    · split
      · exact cache.within_refl
      · exact cache.erase_within _
    · exact cache.within_refl
  · exact cache.within_refl

theorem get?_of_set {key fullKey : String} {value : JsValue} {ttl : Option Nat}
    {entry : CacheEntry} (found : (set options now key value ttl cache).get? fullKey = some entry) :
    cache.get? fullKey = some entry ∨ fullKey = getFullKey options key ∧
      entry = ⟨value, if ttl.getD 0 = 0 then none else some (now + ttl.getD 0 * 1000)⟩ := by
  unfold set at found
  rw [OrderedMap.get?_set] at found
  split at found
  · rename_i same
    right
    constructor
    · exact same.symm
    · exact (Option.some.inj found).symm
  · left
    exact evict_within _ _ _ found

theorem setIfNotExist_cases (key : String) (value : JsValue) (ttl : Option Nat) :
    setIfNotExist options now key value ttl cache = (false, cache) ∨
      setIfNotExist options now key value ttl cache =
        (true, set options now key value ttl cache) := by
  unfold setIfNotExist
  split
  · split
    · exact Or.inl rfl
    · exact Or.inr rfl
  · exact Or.inr rfl

/-- A plain text and one star select what begins with the text and stays on one line. -/
theorem selects_plain_iff {word : String} (plainPrefix : plainText options.keyPrefix = true)
    (plain : plainText word = true) (fullKey : String) :
    selects options (word ++ "*") fullKey = true ↔
      ∃ rest, encode utf16 fullKey = encode utf16 (getFullKey options word) ++ rest ∧
        ∀ unit ∈ rest, dot unit = true := by
  have ordinary := utf16_ordinary (plainText_getFullKey plainPrefix plain)
  rw [selects, getFullKey_append, encode_append, show encode utf16 "*" = [42] by decide,
    globToRegex_plain ordinary, GlobToken.covers_word_many]

/-- A pattern that begins with another ordinary symbol than the key does not select it. -/
theorem selects_eq_false {pattern key : String} {first other : Nat} {rest tail : List Nat}
    (plainPrefix : plainText options.keyPrefix = true)
    (begins : encode utf16 pattern = first :: rest) (ordinary : Ordinary first)
    (starts : encode utf16 key = other :: tail) (different : other ≠ first) :
    selects options pattern (getFullKey options key) = false := by
  have literal : globToRegex (first :: rest) = GlobToken.literal first :: globToRegex rest := by
    obtain ⟨star, question, -, -⟩ := ordinary
    rw [globToRegex, List.map_cons, if_neg star, if_neg question]
    rfl
  rw [selects, getFullKey_eq, getFullKey_eq, encode_append, encode_append, begins, starts,
    globToRegex_append, globToRegex_word (utf16_ordinary (plainText_keyBase plainPrefix)),
    GlobToken.covers_literals_append, literal, GlobToken.covers_literal_ne different]

end MemoryCacheService

end SelfService
