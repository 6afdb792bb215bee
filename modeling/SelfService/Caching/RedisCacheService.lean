/-
The Redis server behind the Redis cache service.

The server keeps text: a value comes back as the JSON round trip of what went
in.  A command may fail, before or after it took effect; which one happened is
part of the reply, although the service never sees it.
-/

import SelfService.Caching.CacheStore

namespace SelfService

open Data

/-- How a command ended.  `applied` tells whether a failed command took effect. -/
inductive Reply (α : Type) : Type
  | ok (value : α)
  | failed (applied : Bool) (reason : String)
  deriving DecidableEq

def Reply.getD {α : Type} (reply : Reply α) (otherwise : α) : α :=
  match reply with
  | .ok value => value
  | .failed _ _ => otherwise

namespace RedisCacheService

/-- The entries that have not expired. -/
def live (now : Nat) (cache : Store) (fullKey : String) : Option CacheEntry :=
  (cache.get? fullKey).filter fun entry => !entry.expired now

/-- Sends `GET` and parses the JSON; a missing key is `null`. -/
def get (options : CacheOptions) (now : Nat) (key : String) (cache : Store) : JsValue :=
  ((live now cache (getFullKey options key)).map CacheEntry.value).getD .null

/-- Sends `SETEX` or, for an expiry of zero, `SET`.  There is no text for `undefined`:
the client throws before anything is sent. -/
def set (options : CacheOptions) (now : Nat) (key : String) (value : JsValue)
    (ttl : Option Nat) (cache : Store) : Option Store :=
  if value = .undefined then none
  else
    let expiry := ttl.getD options.defaultTtl
    some (cache.set (getFullKey options key)
      ⟨value.roundTrip, if 0 < expiry then some (now + expiry * 1000) else none⟩)

/-- Sends `SET` with `NX` and `EX`; an expiry of zero is a syntax error. -/
def setIfNotExist (options : CacheOptions) (now : Nat) (key : String) (value : JsValue)
    (ttl : Option Nat) (cache : Store) : Option (Bool × Store) :=
  let expiry := ttl.getD options.defaultTtl
  if value = .undefined ∨ expiry = 0 then none
  else if (live now cache (getFullKey options key)).isSome then some (false, cache)
  else some (true, cache.set (getFullKey options key)
    ⟨value.roundTrip, some (now + expiry * 1000)⟩)

def delete (options : CacheOptions) (key : String) (cache : Store) : Store :=
  cache.erase (getFullKey options key)

def ttl (options : CacheOptions) (now : Nat) (key : String) (cache : Store) : Int :=
  match live now cache (getFullKey options key) with
  | none => -2
  | some entry =>
      match entry.expiry with
      | none => -1
      | some expiry => ((expiry - now + 500) / 1000 : Nat)

def selects (options : CacheOptions) (pattern fullKey : String) : Bool :=
  GlobToken.covers (redisGlob .outside (encode utf8 (getFullKey options pattern)))
    (encode utf8 fullKey)

def keys (options : CacheOptions) (now : Nat) (pattern : String) (cache : Store) : List String :=
  cache.keys.filter fun fullKey =>
    (live now cache fullKey).isSome && selects options pattern fullKey

def del (fullKeys : List String) (cache : Store) : Store :=
  cache.eraseWhere fun fullKey => fullKeys.contains fullKey

variable {options : CacheOptions} {now : Nat} {cache after : Store}

theorem live_eq_some {fullKey : String} {entry : CacheEntry} :
    live now cache fullKey = some entry ↔
      cache.get? fullKey = some entry ∧ entry.expired now = false := by
  simp [live, Option.filter_eq_some_iff]

theorem get_found {key : String} {value : JsValue}
    (found : get options now key cache = value) (present : value ≠ .null) :
    ∃ entry, cache.get? (getFullKey options key) = some entry ∧
      entry.expired now = false ∧ entry.value = value := by
  unfold get at found
  cases stored : live now cache (getFullKey options key) with
  | none =>
      rw [stored] at found
      exact absurd found.symm present
  | some entry =>
      rw [stored] at found
      obtain ⟨inCache, fresh⟩ := live_eq_some.mp stored
      exact ⟨entry, inCache, fresh, found⟩

theorem get?_of_set {key fullKey : String} {value : JsValue} {ttl : Option Nat}
    {entry : CacheEntry} (written : set options now key value ttl cache = some after)
    (found : after.get? fullKey = some entry) :
    cache.get? fullKey = some entry ∨ fullKey = getFullKey options key ∧
      entry = ⟨value.roundTrip, if 0 < ttl.getD options.defaultTtl
        then some (now + ttl.getD options.defaultTtl * 1000) else none⟩ := by
  unfold set at written
  split at written
  · cases written
  · cases written
    rw [OrderedMap.get?_set] at found
    split at found
    · rename_i same
      right
      constructor
      · exact same.symm
      · exact (Option.some.inj found).symm
    · exact Or.inl found

theorem get?_of_setIfNotExist {key fullKey : String} {value : JsValue} {ttl : Option Nat}
    {won : Bool} {entry : CacheEntry}
    (written : setIfNotExist options now key value ttl cache = some (won, after))
    (found : after.get? fullKey = some entry) :
    cache.get? fullKey = some entry ∨ won = true ∧ fullKey = getFullKey options key ∧
      entry = ⟨value.roundTrip, if 0 < ttl.getD options.defaultTtl
        then some (now + ttl.getD options.defaultTtl * 1000) else none⟩ := by
  unfold setIfNotExist at written
  simp only at written
  split at written
  · cases written
  · rename_i accepted
    have positive : 0 < ttl.getD options.defaultTtl := by
      apply Nat.pos_of_ne_zero
      exact fun zero => accepted (Or.inr zero)
    split at written
    · cases written
      exact Or.inl found
    · cases written
      rw [OrderedMap.get?_set] at found
      split at found
      · rename_i same
        right
        refine ⟨rfl, same.symm, ?_⟩
        rw [if_pos positive]
        exact (Option.some.inj found).symm
      · exact Or.inl found

/-- A plain text and one star select what begins with the text. -/
theorem selects_plain_iff {word : String} (plainPrefix : plainText options.keyPrefix = true)
    (plain : plainText word = true) (fullKey : String) :
    selects options (word ++ "*") fullKey = true ↔
      ∃ rest, encode utf8 fullKey = encode utf8 (getFullKey options word) ++ rest := by
  have ordinary := utf8_ordinary (plainText_getFullKey plainPrefix plain)
  rw [selects, getFullKey_append, encode_append, show encode utf8 "*" = [42] by decide,
    redisGlob_plain ordinary, GlobToken.covers_word_many]
  simp

/-- A pattern that begins with another ordinary symbol than the key does not select it. -/
theorem selects_eq_false {pattern key : String} {first other : Nat} {rest tail : List Nat}
    (plainPrefix : plainText options.keyPrefix = true)
    (begins : encode utf8 pattern = first :: rest) (ordinary : Ordinary first)
    (starts : encode utf8 key = other :: tail) (different : other ≠ first) :
    selects options pattern (getFullKey options key) = false := by
  have literal : redisGlob .outside (first :: rest) =
      GlobToken.literal first :: redisGlob .outside rest :=
    redisGlob_append (fun unit member => by rwa [List.mem_singleton.mp member]) rest
  rw [selects, getFullKey_eq, getFullKey_eq, encode_append, encode_append, begins, starts,
    redisGlob_append (utf8_ordinary (plainText_keyBase plainPrefix)),
    GlobToken.covers_literals_append, literal, GlobToken.covers_literal_ne different]

end RedisCacheService

end SelfService
