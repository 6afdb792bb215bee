/-
`ICacheService` as the services of the program see it.

A service awaits one cache command at a time; `Backend.perform` says which
answers the configured backend may give and what the command does to the store.
The methods at the end are the service methods above these commands.
-/

import SelfService.Caching.MemoryCacheService
import SelfService.Caching.RedisCacheService
import SelfService.Core.Exceptions
import SelfService.EventLoop.Task

namespace SelfService

open Data EventLoop

inductive BackendKind : Type
  | memory
  | redis
  deriving DecidableEq, Repr

/-- The cache the application was configured with.  Every instance prefixes its
keys with `CACHE_KEY_PREFIX`, a text without pattern symbols. -/
structure Backend where
  kind : BackendKind
  options : CacheOptions
  plainPrefix : plainText options.keyPrefix = true

/-- The cache `PortModule` builds when only `REDIS_HOST` may be set. -/
def Backend.configured (redisHost : Bool) : Backend where
  kind := if redisHost then .redis else .memory
  options := .resolve (some 300) (some "ioc:") none
  plainPrefix := by decide

/-- What is sent to the cache.  `deleteByPattern` is one step in memory; over
Redis it is `keys` followed by `del`. -/
inductive CacheCommand : Type
  | get (key : String)
  | set (key : String) (value : JsValue) (ttl : Option Nat)
  | setIfNotExist (key : String) (value : JsValue) (ttl : Option Nat)
  | delete (key : String)
  | ttl (key : String)
  | deleteByPattern (pattern : String)
  | keys (pattern : String)
  | del (fullKeys : List String)
  deriving DecidableEq

abbrev CacheCommand.Answer : CacheCommand → Type
  | .get _ => Reply JsValue
  | .set _ _ _ => Reply Unit
  | .setIfNotExist _ _ _ => Reply Bool
  | .delete _ => Reply Unit
  | .ttl _ => Reply Int
  | .deleteByPattern _ => Reply Nat
  | .keys _ => Reply (List String)
  | .del _ => Reply Unit

namespace Backend

variable (backend : Backend) (now : Nat) (cache : Store)

/-- The map never fails. -/
def performMemory : (command : CacheCommand) → command.Answer → Option Store
  | .get key, .ok value =>
      let found := MemoryCacheService.get backend.options now key cache
      if value = found.1 then some found.2 else none
  | .set key value ttl, .ok _ =>
      some (MemoryCacheService.set backend.options now key value ttl cache)
  | .setIfNotExist key value ttl, .ok won =>
      let claimed := MemoryCacheService.setIfNotExist backend.options now key value ttl cache
      if won = claimed.1 then some claimed.2 else none
  | .delete key, .ok _ => some (MemoryCacheService.delete backend.options key cache)
  | .ttl key, .ok seconds =>
      if seconds = MemoryCacheService.ttl backend.options now key cache then some cache else none
  | .deleteByPattern pattern, .ok count =>
      let deleted := MemoryCacheService.deleteByPattern backend.options pattern cache
      if count = deleted.1 then some deleted.2 else none
  | _, _ => none

def performRedis : (command : CacheCommand) → command.Answer → Option Store
  | .get key, .ok value =>
      if value = RedisCacheService.get backend.options now key cache then some cache else none
  | .get _, .failed _ _ => some cache
  | .set key value ttl, .ok _ => RedisCacheService.set backend.options now key value ttl cache
  | .set key value ttl, .failed applied _ =>
      if applied then RedisCacheService.set backend.options now key value ttl cache
      else some cache
  | .setIfNotExist key value ttl, .ok won =>
      (RedisCacheService.setIfNotExist backend.options now key value ttl cache).bind fun claimed =>
        if won = claimed.1 then some claimed.2 else none
  | .setIfNotExist key value ttl, .failed applied _ =>
      if applied then
        (RedisCacheService.setIfNotExist backend.options now key value ttl cache).map Prod.snd
      else some cache
  | .delete key, .ok _ => some (RedisCacheService.delete backend.options key cache)
  | .delete key, .failed applied _ =>
      some (if applied then RedisCacheService.delete backend.options key cache else cache)
  | .ttl key, .ok seconds =>
      if seconds = RedisCacheService.ttl backend.options now key cache then some cache else none
  | .ttl _, .failed _ _ => some cache
  | .keys pattern, .ok found =>
      if found = RedisCacheService.keys backend.options now pattern cache then some cache else none
  | .keys _, .failed _ _ => some cache
  | .del fullKeys, .ok _ => some (RedisCacheService.del fullKeys cache)
  | .del fullKeys, .failed applied _ =>
      some (if applied then RedisCacheService.del fullKeys cache else cache)
  | .deleteByPattern _, _ => none

/-- The store after a command was answered, if the backend may answer so. -/
def perform (command : CacheCommand) (answer : command.Answer) : Option Store :=
  match backend.kind with
  | .memory => backend.performMemory now cache command answer
  | .redis => backend.performRedis now cache command answer

/-- What a backend that is up answers. -/
def reliable : (command : CacheCommand) → command.Answer
  | .get key =>
      .ok (match backend.kind with
        | .memory => (MemoryCacheService.get backend.options now key cache).1
        | .redis => RedisCacheService.get backend.options now key cache)
  | .set _ _ _ => .ok ()
  | .setIfNotExist key value ttl =>
      .ok (match backend.kind with
        | .memory => (MemoryCacheService.setIfNotExist backend.options now key value ttl cache).1
        | .redis =>
            (RedisCacheService.setIfNotExist backend.options now key value ttl cache).any Prod.fst)
  | .delete _ => .ok ()
  | .ttl key =>
      .ok (match backend.kind with
        | .memory => MemoryCacheService.ttl backend.options now key cache
        | .redis => RedisCacheService.ttl backend.options now key cache)
  | .deleteByPattern pattern =>
      .ok (MemoryCacheService.deleteByPattern backend.options pattern cache).1
  | .keys pattern => .ok (RedisCacheService.keys backend.options now pattern cache)
  | .del _ => .ok ()

/-- What comes back of a stored value. -/
def stored (value : JsValue) : JsValue :=
  match backend.kind with
  | .memory => value
  | .redis => value.roundTrip

def selects (pattern fullKey : String) : Bool :=
  match backend.kind with
  | .memory => MemoryCacheService.selects backend.options pattern fullKey
  | .redis => RedisCacheService.selects backend.options pattern fullKey

end Backend

/-! ### Environments -/

/-- What may happen to a cache: which of the possible answers come, and which keys
may be dropped on their own. -/
structure CacheEnvironment where
  answers : (now : Nat) → Store → (command : CacheCommand) → command.Answer → Bool
  drops : (now : Nat) → Store → String → Bool

def CacheEnvironment.any : CacheEnvironment where
  answers _ _ _ _ := true
  drops _ _ _ := true

def Reply.isOk {α : Type} : Reply α → Bool
  | .ok _ => true
  | .failed _ _ => false

def CacheCommand.succeeds : (command : CacheCommand) → command.Answer → Bool
  | .get _, reply => reply.isOk
  | .set _ _ _, reply => reply.isOk
  | .setIfNotExist _ _ _, reply => reply.isOk
  | .delete _, reply => reply.isOk
  | .ttl _, reply => reply.isOk
  | .deleteByPattern _, reply => reply.isOk
  | .keys _, reply => reply.isOk
  | .del _, reply => reply.isOk

/-- The map is full, and the command would push its oldest entry out. -/
def Backend.overflows (backend : Backend) (cache : Store) : CacheCommand → Bool
  | .set key _ _ | .setIfNotExist key _ _ =>
      backend.kind = .memory && backend.options.maxEntries ≤ cache.size &&
        !cache.contains (getFullKey backend.options key)
  | _ => false

/-- A cache that works and keeps every entry for its time. -/
def CacheEnvironment.working (backend : Backend) : CacheEnvironment where
  answers _ cache command answer :=
    command.succeeds answer && !backend.overflows cache command
  drops now cache fullKey := (cache.get? fullKey).all fun entry => entry.expired now

/-! ### What a command does to the store -/

/-- The key and value a command writes, when it writes. -/
def CacheCommand.write? : CacheCommand → Option (String × JsValue)
  | .set key value _ | .setIfNotExist key value _ => some (key, value)
  | _ => none

def Reply.applied {α : Type} : Reply α → Bool
  | .ok _ => true
  | .failed applied _ => applied

/-- The key a command really wrote. -/
def CacheCommand.written : (command : CacheCommand) → command.Answer → Option String
  | .set key _ _, reply => if reply.applied then some key else none
  | .setIfNotExist key _ _, .ok won => if won then some key else none
  | .setIfNotExist key _ _, .failed applied _ => if applied then some key else none
  | _, _ => none

/-- The command wrote this value under this key, as far as the reply tells. -/
inductive CacheCommand.Wrote : (command : CacheCommand) → command.Answer → String → JsValue →
    Option Nat → Prop
  | set (key : String) (value : JsValue) (ttl : Option Nat) (reply : Reply Unit)
      (applied : reply.applied = true) : Wrote (.set key value ttl) reply key value ttl
  | claimed (key : String) (value : JsValue) (ttl : Option Nat) :
      Wrote (.setIfNotExist key value ttl) (.ok true) key value ttl
  | unclear (key : String) (value : JsValue) (ttl : Option Nat) (reason : String) :
      Wrote (.setIfNotExist key value ttl) (.failed true reason) key value ttl

theorem CacheCommand.Wrote.write? {command : CacheCommand} {answer : command.Answer}
    {key : String} {value : JsValue} {ttl : Option Nat}
    (wrote : command.Wrote answer key value ttl) : command.write? = some (key, value) := by
  cases wrote with
  | set => rfl
  | claimed => rfl
  | unclear => rfl

theorem CacheCommand.Wrote.written {command : CacheCommand} {answer : command.Answer}
    {key : String} {value : JsValue} {ttl : Option Nat}
    (wrote : command.Wrote answer key value ttl) : command.written answer = some key := by
  cases wrote with
  | set applied => exact if_pos (by assumption)
  | claimed => rfl
  | unclear => rfl

variable {backend : Backend} {now : Nat} {cache after : Store}

namespace Backend

/-- What a write leaves under its key. -/
def entryOf (backend : Backend) (now : Nat) (value : JsValue) (ttl : Option Nat) : CacheEntry :=
  let seconds := match backend.kind with
    | .memory => ttl.getD 0
    | .redis => ttl.getD backend.options.defaultTtl
  ⟨backend.stored value, if seconds = 0 then none else some (now + seconds * 1000)⟩

/-- An entry with a time to live expires when it is over. -/
theorem expired_entryOf {seconds : Nat} (positive : 0 < seconds) (written now : Nat)
    (value : JsValue) : (backend.entryOf written value (some seconds)).expired now =
      decide (written + seconds * 1000 < now) := by
  unfold entryOf CacheEntry.expired
  cases backend.kind with
  | memory => simp [Nat.ne_of_gt positive]
  | redis => simp [Nat.ne_of_gt positive]

theorem entryOf_memory (kind : backend.kind = .memory) (value : JsValue) (ttl : Option Nat) :
    backend.entryOf now value ttl =
      ⟨value, if ttl.getD 0 = 0 then none else some (now + ttl.getD 0 * 1000)⟩ := by
  simp only [entryOf, stored, kind]

theorem entryOf_redis (kind : backend.kind = .redis) (value : JsValue) (ttl : Option Nat) :
    backend.entryOf now value ttl =
      ⟨value.roundTrip, if 0 < ttl.getD backend.options.defaultTtl
        then some (now + ttl.getD backend.options.defaultTtl * 1000) else none⟩ := by
  simp only [entryOf, stored, kind]
  congr 1
  split
  · rename_i zero
    rw [if_neg (by omega)]
  · rename_i positive
    rw [if_pos (by omega)]

section Served

attribute [local simp] performMemory performRedis

/-- Whatever a command leaves in the map was there before or was written by it. -/
theorem wrote_of_performMemory (kind : backend.kind = .memory) {command : CacheCommand}
    {answer : command.Answer}
    (performed : backend.performMemory now cache command answer = some after)
    {fullKey : String} {entry : CacheEntry} (found : after.get? fullKey = some entry) :
    cache.get? fullKey = some entry ∨ ∃ key value ttl, command.Wrote answer key value ttl ∧
      fullKey = getFullKey backend.options key ∧ entry = backend.entryOf now value ttl := by
  have kept (smaller : after.Within cache) : cache.get? fullKey = some entry :=
    smaller fullKey entry found
  cases command with
  | get key =>
      cases answer with
      | failed applied reason => simp at performed
      | ok value =>
          simp only [performMemory] at performed
          obtain ⟨-, agreed⟩ := Option.ite_none_right_eq_some.mp performed
          cases agreed
          exact Or.inl (kept (MemoryCacheService.get_within key))
  | set key value ttl =>
      cases answer with
      | failed applied reason => simp at performed
      | ok done =>
          cases performed
          rcases MemoryCacheService.get?_of_set found with old | ⟨same, written⟩
          · exact Or.inl old
          · right
            exact ⟨key, value, ttl, .set _ _ _ _ rfl, same, written.trans (entryOf_memory kind ..).symm⟩
  | setIfNotExist key value ttl =>
      cases answer with
      | failed applied reason => simp at performed
      | ok won =>
          simp only [performMemory] at performed
          obtain ⟨decided, agreed⟩ := Option.ite_none_right_eq_some.mp performed
          cases agreed
          rcases MemoryCacheService.setIfNotExist_cases key value ttl with lost | claimed
          · rw [lost] at found
            exact Or.inl found
          · rw [claimed] at found decided
            subst decided
            rcases MemoryCacheService.get?_of_set found with old | ⟨same, written⟩
            · exact Or.inl old
            · right
              exact ⟨key, value, ttl, .claimed _ _ _, same, written.trans (entryOf_memory kind ..).symm⟩
  | delete key =>
      cases answer with
      | failed applied reason => simp at performed
      | ok value =>
          cases performed
          exact Or.inl (kept (cache.erase_within _))
  | ttl key =>
      cases answer with
      | failed applied reason => simp at performed
      | ok seconds =>
          simp only [performMemory] at performed
          obtain ⟨-, agreed⟩ := Option.ite_none_right_eq_some.mp performed
          cases agreed
          exact Or.inl found
  | deleteByPattern pattern =>
      cases answer with
      | failed applied reason => simp at performed
      | ok count =>
          simp only [performMemory] at performed
          obtain ⟨-, agreed⟩ := Option.ite_none_right_eq_some.mp performed
          cases agreed
          exact Or.inl (kept (cache.eraseWhere_within _))
  | keys pattern => simp at performed
  | del fullKeys => simp at performed

theorem wrote_of_performRedis (kind : backend.kind = .redis) {command : CacheCommand}
    {answer : command.Answer}
    (performed : backend.performRedis now cache command answer = some after)
    {fullKey : String} {entry : CacheEntry} (found : after.get? fullKey = some entry) :
    cache.get? fullKey = some entry ∨ ∃ key value ttl, command.Wrote answer key value ttl ∧
      fullKey = getFullKey backend.options key ∧ entry = backend.entryOf now value ttl := by
  have kept (smaller : after.Within cache) : cache.get? fullKey = some entry :=
    smaller fullKey entry found
  have set_ {key : String} {value : JsValue} {ttl : Option Nat} {reply : Reply Unit}
      (applied : reply.applied = true)
      (written : RedisCacheService.set backend.options now key value ttl cache = some after) :
      cache.get? fullKey = some entry ∨ ∃ other writtenValue ttl',
        (CacheCommand.set key value ttl).Wrote reply other writtenValue ttl' ∧
          fullKey = getFullKey backend.options other ∧
            entry = backend.entryOf now writtenValue ttl' := by
    rcases RedisCacheService.get?_of_set written found with old | ⟨same, left⟩
    · exact Or.inl old
    · right
      exact ⟨key, value, ttl, .set _ _ _ _ applied, same, left.trans (entryOf_redis kind ..).symm⟩
  cases command with
  | get key =>
      cases answer with
      | ok value =>
          simp only [performRedis] at performed
          obtain ⟨-, agreed⟩ := Option.ite_none_right_eq_some.mp performed
          cases agreed
          exact Or.inl found
      | failed applied reason =>
          cases performed
          exact Or.inl found
  | set key value ttl =>
      cases answer with
      | ok done => exact set_ rfl performed
      | failed applied reason =>
          cases applied with
          | true => exact set_ rfl performed
          | false =>
              cases performed
              exact Or.inl found
  | setIfNotExist key value ttl =>
      cases answer with
      | ok won =>
          obtain ⟨claimed, served, met⟩ := Option.bind_eq_some_iff.mp performed
          obtain ⟨decided, agreed⟩ := Option.ite_none_right_eq_some.mp met
          cases agreed
          rcases RedisCacheService.get?_of_setIfNotExist served found with old | ⟨first, same, left⟩
          · exact Or.inl old
          · right
            rw [first] at decided
            subst decided
            exact ⟨key, value, ttl, .claimed _ _ _, same, left.trans (entryOf_redis kind ..).symm⟩
      | failed applied reason =>
          cases applied with
          | true =>
              obtain ⟨claimed, served, rfl⟩ := Option.map_eq_some_iff.mp performed
              rcases RedisCacheService.get?_of_setIfNotExist served found with old | ⟨-, same, left⟩
              · exact Or.inl old
              · right
                exact ⟨key, value, ttl, .unclear _ _ _ _, same,
                  left.trans (entryOf_redis kind ..).symm⟩
          | false =>
              cases performed
              exact Or.inl found
  | delete key =>
      cases answer with
      | ok done =>
          cases performed
          exact Or.inl (kept (cache.erase_within _))
      | failed applied reason =>
          cases applied with
          | true =>
              cases performed
              exact Or.inl (kept (cache.erase_within _))
          | false =>
              cases performed
              exact Or.inl found
  | ttl key =>
      cases answer with
      | ok seconds =>
          simp only [performRedis] at performed
          obtain ⟨-, agreed⟩ := Option.ite_none_right_eq_some.mp performed
          cases agreed
          exact Or.inl found
      | failed applied reason =>
          cases performed
          exact Or.inl found
  | deleteByPattern pattern => simp at performed
  | keys pattern =>
      cases answer with
      | ok listed =>
          simp only [performRedis] at performed
          obtain ⟨-, agreed⟩ := Option.ite_none_right_eq_some.mp performed
          cases agreed
          exact Or.inl found
      | failed applied reason =>
          cases performed
          exact Or.inl found
  | del fullKeys =>
      cases answer with
      | ok done =>
          cases performed
          exact Or.inl (kept (cache.eraseWhere_within _))
      | failed applied reason =>
          cases applied with
          | true =>
              cases performed
              exact Or.inl (kept (cache.eraseWhere_within _))
          | false =>
              cases performed
              exact Or.inl found

/-- Whatever a command leaves in the store was there before or was really written. -/
theorem wrote_of_perform {command : CacheCommand} {answer : command.Answer}
    (performed : backend.perform now cache command answer = some after) {fullKey : String}
    {entry : CacheEntry} (found : after.get? fullKey = some entry) :
    cache.get? fullKey = some entry ∨ ∃ key value ttl, command.Wrote answer key value ttl ∧
      fullKey = getFullKey backend.options key ∧ entry = backend.entryOf now value ttl := by
  unfold perform at performed
  cases kind : backend.kind with
  | memory =>
      rw [kind] at performed
      exact wrote_of_performMemory kind performed found
  | redis =>
      rw [kind] at performed
      exact wrote_of_performRedis kind performed found

/-- The value a command leaves in the store, whatever its expiry. -/
theorem get?_of_perform {command : CacheCommand} {answer : command.Answer}
    (performed : backend.perform now cache command answer = some after) {fullKey : String}
    {entry : CacheEntry} (found : after.get? fullKey = some entry) :
    cache.get? fullKey = some entry ∨
      ∃ key value, command.write? = some (key, value) ∧
        fullKey = getFullKey backend.options key ∧ entry.value = backend.stored value := by
  rcases wrote_of_perform performed found with kept | ⟨key, value, ttl, wrote, same, rfl⟩
  · exact Or.inl kept
  · exact Or.inr ⟨key, value, wrote.write?, same, rfl⟩

theorem kept_or_written {command : CacheCommand} {answer : command.Answer}
    (performed : backend.perform now cache command answer = some after) {fullKey : String}
    {entry : CacheEntry} (found : after.get? fullKey = some entry) :
    cache.get? fullKey = some entry ∨
      ∃ key, command.written answer = some key ∧ fullKey = getFullKey backend.options key := by
  rcases wrote_of_perform performed found with kept | ⟨key, value, ttl, wrote, same, -⟩
  · exact Or.inl kept
  · exact Or.inr ⟨key, wrote.written, same⟩

/-- A deletion in memory leaves no key that its pattern selects. -/
theorem unselected_of_deleteByPattern {pattern : String} {reply : Reply Nat}
    (performed : backend.perform now cache (.deleteByPattern pattern) reply = some after)
    {fullKey : String} {entry : CacheEntry} (found : after.get? fullKey = some entry) :
    backend.selects pattern fullKey = false := by
  unfold perform at performed
  unfold selects
  cases kind : backend.kind with
  | memory =>
      cases reply with
      | failed applied reason => simp [kind] at performed
      | ok count =>
          simp only [kind, performMemory] at performed
          obtain ⟨-, agreed⟩ := Option.ite_none_right_eq_some.mp performed
          cases agreed
          exact (OrderedMap.get?_of_eraseWhere found).2
  | redis => simp [kind] at performed

/-- A listing names every live key that its pattern selects. -/
theorem mem_of_keys {pattern : String} {fullKeys : List String}
    (performed : backend.perform now cache (.keys pattern) (.ok fullKeys) = some after)
    {fullKey : String} {entry : CacheEntry} (found : cache.get? fullKey = some entry)
    (fresh : entry.expired now = false) (selected : backend.selects pattern fullKey = true) :
    fullKey ∈ fullKeys := by
  unfold perform at performed
  unfold selects at selected
  cases kind : backend.kind with
  | memory => simp [kind] at performed
  | redis =>
      rw [kind] at selected
      simp only [kind, performRedis] at performed
      obtain ⟨same, -⟩ := Option.ite_none_right_eq_some.mp performed
      rw [same, RedisCacheService.keys, List.mem_filter]
      constructor
      · exact OrderedMap.mem_keys_of_get? found
      · simp [RedisCacheService.live_eq_some.mpr ⟨found, fresh⟩, selected]

theorem not_mem_of_del {fullKeys : List String} {reply : Reply Unit}
    (performed : backend.perform now cache (.del fullKeys) reply = some after)
    (applied : reply.applied = true)
    {fullKey : String} {entry : CacheEntry} (found : after.get? fullKey = some entry) :
    fullKey ∉ fullKeys := by
  unfold perform at performed
  cases kind : backend.kind with
  | memory => simp [kind] at performed
  | redis =>
      have deleted : RedisCacheService.del fullKeys cache = after := by
        cases reply with
        | ok done => simpa [kind] using performed
        | failed applied_ reason =>
            cases applied_ with
            | true => simpa [kind] using performed
            | false => cases applied
      rw [← deleted] at found
      have spared := (OrderedMap.get?_of_eraseWhere found).2
      simpa using spared

/-- A listing changes nothing. -/
theorem eq_of_keys {pattern : String} {reply : Reply (List String)}
    (performed : backend.perform now cache (.keys pattern) reply = some after) :
    after = cache := by
  unfold perform at performed
  cases kind : backend.kind with
  | memory => simp [kind] at performed
  | redis =>
      cases reply with
      | ok fullKeys =>
          simp only [kind, performRedis] at performed
          exact (Option.some.inj (Option.ite_none_right_eq_some.mp performed).2).symm
      | failed applied reason =>
          simp only [kind, performRedis] at performed
          exact (Option.some.inj performed).symm

/-- A value that was read came from an entry that has not expired. -/
theorem get_found {key : String} {value : JsValue}
    (performed : backend.perform now cache (.get key) (.ok value) = some after)
    (present : value ≠ .null) :
    ∃ entry, cache.get? (getFullKey backend.options key) = some entry ∧
      entry.expired now = false ∧ entry.value = value := by
  unfold perform at performed
  cases kind : backend.kind with
  | memory =>
      simp only [kind, performMemory] at performed
      obtain ⟨same, -⟩ := Option.ite_none_right_eq_some.mp performed
      exact MemoryCacheService.get_found same.symm present
  | redis =>
      simp only [kind, performRedis] at performed
      obtain ⟨same, -⟩ := Option.ite_none_right_eq_some.mp performed
      exact RedisCacheService.get_found same.symm present

/-- An entry that has not expired is what a read answers. -/
theorem reliable_get {key : String} {entry : CacheEntry}
    (found : cache.get? (getFullKey backend.options key) = some entry)
    (fresh : entry.expired now = false) :
    backend.reliable now cache (.get key) = Reply.ok entry.value ∧
      backend.perform now cache (.get key) (.ok entry.value) = some cache := by
  have fromMap := MemoryCacheService.get_of_live found fresh
  have fromServer : RedisCacheService.get backend.options now key cache = entry.value := by
    simp [RedisCacheService.get, RedisCacheService.live_eq_some.mpr ⟨found, fresh⟩]
  cases kind : backend.kind with
  | memory => simp [reliable, perform, kind, fromMap]
  | redis => simp [reliable, perform, kind, fromServer]

/-- A write leaves its value, as it comes back, under its key. -/
theorem reliable_set (key : String) {value : JsValue} (defined : value ≠ .undefined)
    (ttl : Nat) :
    ∃ after, backend.perform now cache (.set key value (some ttl)) (.ok ()) = some after ∧
      after.get? (getFullKey backend.options key) =
        some ⟨backend.stored value, if ttl = 0 then none else some (now + ttl * 1000)⟩ := by
  cases kind : backend.kind with
  | memory =>
      refine ⟨MemoryCacheService.set backend.options now key value (some ttl) cache, ?_, ?_⟩
      · simp only [perform, performMemory, kind]
      · simp [MemoryCacheService.set, stored, kind]
  | redis =>
      have expiry : (if 0 < ttl then some (now + ttl * 1000) else none) =
          if ttl = 0 then none else some (now + ttl * 1000) := by
        simp [Nat.pos_iff_ne_zero]
      refine ⟨cache.set (getFullKey backend.options key)
        ⟨value.roundTrip, if 0 < ttl then some (now + ttl * 1000) else none⟩, ?_, ?_⟩
      · simp [perform, RedisCacheService.set, kind, defined]
      · simp [stored, kind, expiry]

end Served

end Backend

/-! ### The service methods -/

/-- A signature whose environment serves a cache. -/
class CacheAccess (S : Signature) where
  request : CacheCommand → S.Req
  answered : ∀ command, S.Ans (request command) = command.Answer
  reject : Exn → S.Err

namespace CacheService

variable {S : Signature} [CacheAccess S]

def ask (command : CacheCommand) : Task S command.Answer :=
  .await (CacheAccess.request command) fun answer =>
    .done (cast (CacheAccess.answered command) answer)

/-- Both services answer `null` for a missing key; Redis also when it fails. -/
def get (key : String) : Task S JsValue := do
  let reply ← ask (.get key)
  return reply.getD .null

/-- A failed write is the only error a caller sees. -/
def set (key : String) (value : JsValue) (ttl : Option Nat) : Task S Unit := do
  match ← ask (.set key value ttl) with
  | .ok _ => return ()
  | .failed _ reason => .fail (CacheAccess.reject (.error reason))

def setIfNotExist (key : String) (value : JsValue) (ttl : Option Nat) : Task S Bool := do
  let reply ← ask (.setIfNotExist key value ttl)
  return reply.getD false

def delete (key : String) : Task S Unit := do
  let _ ← ask (.delete key)
  return ()

def ttl (key : String) : Task S Int := do
  let reply ← ask (.ttl key)
  return reply.getD (-1)

/-- Over Redis the keys are listed first and deleted by a second command. -/
def deleteByPattern (kind : BackendKind) (pattern : String) : Task S Nat :=
  match kind with
  | .memory => do
      let reply ← ask (.deleteByPattern pattern)
      return reply.getD 0
  | .redis => do
      match ← ask (.keys pattern) with
      | .failed _ reason => .fail (CacheAccess.reject (.error reason))
      | .ok [] => return 0
      | .ok fullKeys =>
          match ← ask (.del fullKeys) with
          | .failed _ reason => .fail (CacheAccess.reject (.error reason))
          | .ok _ => return fullKeys.length

end CacheService

end SelfService
