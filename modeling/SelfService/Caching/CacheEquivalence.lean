/-
The two cache services side by side.

A program that is developed over the memory cache and deployed over Redis relies on
the two giving the same answers.  The calls on which they agree are those that do not
touch one of their differences: the default lifetime, the instant of expiry, the
rounding of remaining seconds, and what counting does to an expiry.
-/

import SelfService.Caching.MemoryCacheService
import SelfService.Caching.RedisCacheService

namespace SelfService

open Data

/-- One entry of `mset`. -/
structure CacheWrite where
  key : String
  value : JsValue
  ttl : Option Nat

/-- What `+` and `-` make of a first operand that is not a number. -/
structure JsArithmetic where
  plus : JsValue → Rat → JsValue
  minus : JsValue → Rat → JsValue

/-! ### The other operations of the memory cache -/

namespace MemoryCacheService

def exists_ (options : CacheOptions) (now : Nat) (key : String) (cache : Store) : Bool × Store :=
  let fullKey := getFullKey options key
  match cache.get? fullKey with
  | none => (false, cache)
  | some entry => if entry.expired now then (false, cache.erase fullKey) else (true, cache)

def mget (options : CacheOptions) (now : Nat) : List String → Store → List JsValue × Store
  | [], cache => ([], cache)
  | key :: rest, cache =>
      let first := get options now key cache
      let others := mget options now rest first.2
      (first.1 :: others.1, others.2)

def mset (options : CacheOptions) (now : Nat) (entries : List CacheWrite) (cache : Store) : Store :=
  entries.foldl (fun cache entry => set options now entry.key entry.value entry.ttl cache) cache

def mdelete (options : CacheOptions) (keys : List String) (cache : Store) : Store :=
  keys.foldl (fun cache key => delete options key cache) cache

/-- `(current || 0) + by`. -/
def increased (arithmetic : JsArithmetic) (current : JsValue) (by_ : Rat) : JsValue :=
  match if current.truthy then current else .num 0 with
  | .num count => .num (count + by_)
  | other => arithmetic.plus other by_

/-- `(current || 0) - by`. -/
def decreased (arithmetic : JsArithmetic) (current : JsValue) (by_ : Rat) : JsValue :=
  match if current.truthy then current else .num 0 with
  | .num count => .num (count - by_)
  | other => arithmetic.minus other by_

/-- A count is written without a lifetime. -/
def count (options : CacheOptions) (now : Nat) (key : String) (change : JsValue → JsValue)
    (cache : Store) : JsValue × Store :=
  let current := get options now key cache
  let newValue := change current.1
  (newValue, set options now key newValue none current.2)

def incr (options : CacheOptions) (arithmetic : JsArithmetic) (now : Nat) (key : String) (by_ : Rat)
    (cache : Store) : JsValue × Store :=
  count options now key (fun current => increased arithmetic current by_) cache

def decr (options : CacheOptions) (arithmetic : JsArithmetic) (now : Nat) (key : String) (by_ : Rat)
    (cache : Store) : JsValue × Store :=
  count options now key (fun current => decreased arithmetic current by_) cache

end MemoryCacheService

/-! ### The other operations over Redis -/

namespace RedisCacheService

def exists_ (options : CacheOptions) (now : Nat) (key : String) (cache : Store) : Bool :=
  (live now cache (getFullKey options key)).isSome

def mget (options : CacheOptions) (now : Nat) (keys : List String) (cache : Store) : List JsValue :=
  keys.map fun key => get options now key cache

/-- One transaction; an `undefined` value throws before it is sent. -/
def mset (options : CacheOptions) (now : Nat) : List CacheWrite → Store → Option Store
  | [], cache => some cache
  | entry :: rest, cache =>
      (set options now entry.key entry.value entry.ttl cache).bind (mset options now rest)

def mdelete (options : CacheOptions) (keys : List String) (cache : Store) : Store :=
  keys.foldl (fun cache key => delete options key cache) cache

/-- The text of an integer of 64 bits. -/
def integerOf : JsValue → Option Int
  | .num number =>
      if number.den = 1 ∧ -9223372036854775808 ≤ number.num ∧ number.num < 9223372036854775808 then
        some number.num
      else none
  | _ => none

/-- `INCRBY`: a missing key counts from zero, a count keeps its expiry, and what is no integer
or leaves the 64 bits is an error. -/
def incrBy (options : CacheOptions) (now : Nat) (key : String) (by_ : Int) (cache : Store) :
    Option (Int × Store) := do
  let entry := live now cache (getFullKey options key)
  let current ← match entry with
    | none => some 0
    | some entry => integerOf entry.value
  let sum ← integerOf (.num (current + by_ : Int))
  return (sum, cache.set (getFullKey options key) ⟨.num sum, entry.bind CacheEntry.expiry⟩)

/-- An error is logged and answered with zero. -/
def counted (outcome : Option (Int × Store)) (cache : Store) : JsValue × Store :=
  match outcome with
  | some (sum, after) => (.num sum, after)
  | none => (.num 0, cache)

def incr (options : CacheOptions) (now : Nat) (key : String) (by_ : Rat) (cache : Store) :
    JsValue × Store :=
  counted ((integerOf (.num by_)).bind fun by_ => incrBy options now key by_ cache) cache

def decr (options : CacheOptions) (now : Nat) (key : String) (by_ : Rat) (cache : Store) :
    JsValue × Store :=
  counted ((integerOf (.num by_)).bind fun by_ => incrBy options now key (-by_) cache) cache

end RedisCacheService

/-! ### Calls -/

inductive CacheCall
  | set (write : CacheWrite)
  | setIfNotExist (write : CacheWrite)
  | get (key : String)
  | exists_ (key : String)
  | delete (key : String)
  | mget (keys : List String)
  | mset (writes : List CacheWrite)
  | mdelete (keys : List String)
  | incr (key : String) (by_ : Rat)
  | decr (key : String) (by_ : Rat)
  | ttl (key : String)

inductive CacheAnswer
  | nothing
  | rejected
  | value (value : JsValue)
  | values (values : List JsValue)
  | flag (flag : Bool)
  | seconds (seconds : Int)
  deriving DecidableEq

def memoryCall (options : CacheOptions) (arithmetic : JsArithmetic) (now : Nat) (cache : Store) :
    CacheCall → CacheAnswer × Store
  | .set write =>
      (.nothing, MemoryCacheService.set options now write.key write.value write.ttl cache)
  | .setIfNotExist write =>
      let claimed :=
        MemoryCacheService.setIfNotExist options now write.key write.value write.ttl cache
      (.flag claimed.1, claimed.2)
  | .get key =>
      let read := MemoryCacheService.get options now key cache
      (.value read.1, read.2)
  | .exists_ key =>
      let found := MemoryCacheService.exists_ options now key cache
      (.flag found.1, found.2)
  | .delete key => (.nothing, MemoryCacheService.delete options key cache)
  | .mget keys =>
      let read := MemoryCacheService.mget options now keys cache
      (.values read.1, read.2)
  | .mset writes => (.nothing, MemoryCacheService.mset options now writes cache)
  | .mdelete keys => (.nothing, MemoryCacheService.mdelete options keys cache)
  | .incr key by_ =>
      let counted := MemoryCacheService.incr options arithmetic now key by_ cache
      (.value counted.1, counted.2)
  | .decr key by_ =>
      let counted := MemoryCacheService.decr options arithmetic now key by_ cache
      (.value counted.1, counted.2)
  | .ttl key => (.seconds (MemoryCacheService.ttl options now key cache), cache)

/-- What `set` and `mset` throw on is rejected; `setIfNotExist` answers an error with `false`. -/
def redisCall (options : CacheOptions) (now : Nat) (cache : Store) : CacheCall → CacheAnswer × Store
  | .set write =>
      match RedisCacheService.set options now write.key write.value write.ttl cache with
      | some after => (.nothing, after)
      | none => (.rejected, cache)
  | .setIfNotExist write =>
      match RedisCacheService.setIfNotExist options now write.key write.value write.ttl cache with
      | some (won, after) => (.flag won, after)
      | none => (.flag false, cache)
  | .get key => (.value (RedisCacheService.get options now key cache), cache)
  | .exists_ key => (.flag (RedisCacheService.exists_ options now key cache), cache)
  | .delete key => (.nothing, RedisCacheService.delete options key cache)
  | .mget keys => (.values (RedisCacheService.mget options now keys cache), cache)
  | .mset writes =>
      match RedisCacheService.mset options now writes cache with
      | some after => (.nothing, after)
      | none => (.rejected, cache)
  | .mdelete keys => (.nothing, RedisCacheService.mdelete options keys cache)
  | .incr key by_ =>
      let counted := RedisCacheService.incr options now key by_ cache
      (.value counted.1, counted.2)
  | .decr key by_ =>
      let counted := RedisCacheService.decr options now key by_ cache
      (.value counted.1, counted.2)
  | .ttl key => (.seconds (RedisCacheService.ttl options now key cache), cache)

/-- Time passes, the timer of the memory cache fires, or a call is made. -/
inductive CacheMoment
  | passes (millis : Nat)
  | cleanup
  | call (call : CacheCall)

/-- A service at some time. -/
structure Running where
  now : Nat
  cache : Store

def memoryMoment (options : CacheOptions) (arithmetic : JsArithmetic) (running : Running) :
    CacheMoment → Option CacheAnswer × Running
  | .passes millis => (none, { running with now := running.now + millis })
  | .cleanup =>
      (none, { running with cache := MemoryCacheService.cleanup running.now running.cache })
  | .call call =>
      let done := memoryCall options arithmetic running.now running.cache call
      (some done.1, { running with cache := done.2 })

def redisMoment (options : CacheOptions) (running : Running) :
    CacheMoment → Option CacheAnswer × Running
  | .passes millis => (none, { running with now := running.now + millis })
  | .cleanup => (none, running)
  | .call call =>
      let done := redisCall options running.now running.cache call
      (some done.1, { running with cache := done.2 })

/-- The answers of a sequence of moments, and where it leads. -/
def play (moment : Running → CacheMoment → Option CacheAnswer × Running) (running : Running) :
    List CacheMoment → List CacheAnswer × Running
  | [] => ([], running)
  | first :: rest =>
      let done := moment running first
      let later := play moment done.2 rest
      (done.1.toList ++ later.1, later.2)

/-! ### What the services can tell apart -/

section Same

open RedisCacheService (live)

variable {options : CacheOptions} {now : Nat} {left right cache : Store}

/-- Both stores hold the same entries, apart from expired ones. -/
def Same (now : Nat) (left right : Store) : Prop :=
  ∀ fullKey, live now left fullKey = live now right fullKey

theorem Same.refl (now : Nat) (cache : Store) : Same now cache cache := fun _ => rfl

theorem Same.trans {middle : Store} (first : Same now left middle)
    (second : Same now middle right) :
    Same now left right :=
  fun fullKey => (first fullKey).trans (second fullKey)

/-- What has expired stays expired. -/
theorem live_later {later : Nat} (order : now ≤ later) (fullKey : String) :
    live later cache fullKey =
      (live now cache fullKey).filter fun entry => !entry.expired later := by
  unfold live
  cases cache.get? fullKey with
  | none => rfl
  | some entry =>
      cases expired : entry.expired now with
      | true => simp [Option.filter, expired, CacheEntry.expired_mono order expired]
      | false => simp [Option.filter, expired]

theorem Same.later {later : Nat} (same : Same now left right) (order : now ≤ later) :
    Same later left right := by
  intro fullKey
  rw [live_later order, live_later order, same]

theorem live_set (fullKey other : String) (entry : CacheEntry) :
    live now (cache.set fullKey entry) other =
      if fullKey = other then (some entry).filter fun entry => !entry.expired now
      else live now cache other := by
  unfold live
  rw [OrderedMap.get?_set]
  split
  · rfl
  · rfl

theorem live_erase (fullKey other : String) :
    live now (cache.erase fullKey) other =
      if other = fullKey then none else live now cache other := by
  unfold live
  rw [OrderedMap.get?_erase]
  split
  · rfl
  · rfl

theorem Same.set (same : Same now left right) (fullKey : String) (entry : CacheEntry) :
    Same now (left.set fullKey entry) (right.set fullKey entry) := by
  intro other
  rw [live_set, live_set, same]

theorem Same.erase (same : Same now left right) (fullKey : String) :
    Same now (left.erase fullKey) (right.erase fullKey) := by
  intro other
  rw [live_erase, live_erase, same]

/-- Dropping expired entries goes unnoticed. -/
theorem same_eraseWhere {remove : String → Bool}
    (gone : ∀ fullKey, remove fullKey = true → live now cache fullKey = none) :
    Same now (cache.eraseWhere remove) cache := by
  intro fullKey
  unfold live
  rw [OrderedMap.get?_eraseWhere]
  split
  · rename_i removed
    exact (gone fullKey removed).symm
  · rfl

theorem live_of_expired {fullKey : String} {entry : CacheEntry}
    (found : cache.get? fullKey = some entry) (expired : entry.expired now = true) :
    live now cache fullKey = none := by
  simp [live, found, expired]

theorem live_of_fresh {fullKey : String} {entry : CacheEntry}
    (found : cache.get? fullKey = some entry) (fresh : entry.expired now = false) :
    live now cache fullKey = some entry :=
  RedisCacheService.live_eq_some.mpr ⟨found, fresh⟩

theorem live_of_missing {fullKey : String} (missing : cache.get? fullKey = none) :
    live now cache fullKey = none := by
  simp [live, missing]

theorem same_erase_expired {fullKey : String} {entry : CacheEntry}
    (found : cache.get? fullKey = some entry) (expired : entry.expired now = true) :
    Same now (cache.erase fullKey) cache := by
  apply same_eraseWhere
  intro other removed
  rw [of_decide_eq_true removed]
  exact live_of_expired found expired

theorem same_cleanup : Same now (MemoryCacheService.cleanup now cache) cache := by
  apply same_eraseWhere
  intro fullKey removed
  cases found : cache.get? fullKey with
  | none => exact live_of_missing found
  | some entry =>
      rw [found] at removed
      exact live_of_expired found removed

/-! ### Sizes -/

theorem size_erase_le (fullKey : String) : (cache.erase fullKey).size ≤ cache.size :=
  List.length_filter_le _ _

theorem length_putIn_le (fullKey : String) (entry : CacheEntry)
    (entries : List (String × CacheEntry)) :
    (OrderedMap.putIn fullKey entry entries).length ≤ entries.length + 1 := by
  induction entries with
  | nil => exact Nat.le_refl _
  | cons head rest ih =>
      rw [OrderedMap.putIn]
      split
      · simp
      · simpa using ih

theorem size_set_le (cache : Store) (fullKey : String) (entry : CacheEntry) :
    (cache.set fullKey entry).size ≤ cache.size + 1 :=
  length_putIn_le fullKey entry cache.entries

/-- Below the limit nothing is evicted. -/
theorem evict_below {fullKey : String} (below : cache.size < options.maxEntries) :
    MemoryCacheService.evict options fullKey cache = cache := by
  unfold MemoryCacheService.evict
  rw [if_neg]
  simp only [Bool.and_eq_true, decide_eq_true_eq, not_and]
  omega

/-! ### Reading -/

theorem memory_get (options : CacheOptions) (now : Nat) (cache : Store) (key : String) :
    (MemoryCacheService.get options now key cache).1 =
        RedisCacheService.get options now key cache ∧
      Same now (MemoryCacheService.get options now key cache).2 cache ∧
        (MemoryCacheService.get options now key cache).2.size ≤ cache.size := by
  cases found : cache.get? (getFullKey options key) with
  | none =>
      rw [MemoryCacheService.get_of_missing found, RedisCacheService.get, live_of_missing found]
      exact ⟨rfl, .refl now cache, Nat.le_refl _⟩
  | some entry =>
      cases expired : entry.expired now with
      | true =>
          rw [MemoryCacheService.get_of_expired found expired, RedisCacheService.get,
            live_of_expired found expired]
          exact ⟨rfl, same_erase_expired found expired, size_erase_le _⟩
      | false =>
          rw [MemoryCacheService.get_of_live found expired, RedisCacheService.get,
            live_of_fresh found expired]
          exact ⟨rfl, .refl now cache, Nat.le_refl _⟩

theorem Same.get (same : Same now left right) (key : String) :
    RedisCacheService.get options now key left = RedisCacheService.get options now key right := by
  rw [RedisCacheService.get, same, RedisCacheService.get]

theorem memory_exists (options : CacheOptions) (now : Nat) (cache : Store) (key : String) :
    (MemoryCacheService.exists_ options now key cache).1 =
        RedisCacheService.exists_ options now key cache ∧
      Same now (MemoryCacheService.exists_ options now key cache).2 cache := by
  unfold MemoryCacheService.exists_ RedisCacheService.exists_
  cases found : cache.get? (getFullKey options key) with
  | none =>
      simp only [found, live_of_missing found]
      exact ⟨rfl, .refl now cache⟩
  | some entry =>
      cases expired : entry.expired now with
      | true =>
          simp only [found, live_of_expired found expired, expired, if_true]
          exact ⟨rfl, same_erase_expired found expired⟩
      | false =>
          simp only [found, live_of_fresh found expired, expired, Bool.false_eq_true, if_false]
          exact ⟨rfl, .refl now cache⟩

theorem memory_mget (options : CacheOptions) (now : Nat) (cache : Store) (keys : List String) :
    (MemoryCacheService.mget options now keys cache).1 =
        RedisCacheService.mget options now keys cache ∧
      Same now (MemoryCacheService.mget options now keys cache).2 cache := by
  induction keys generalizing cache with
  | nil => exact ⟨rfl, .refl now cache⟩
  | cons key rest ih =>
      obtain ⟨read, same, -⟩ := memory_get options now cache key
      obtain ⟨others, sameOthers⟩ := ih (MemoryCacheService.get options now key cache).2
      refine ⟨?_, sameOthers.trans same⟩
      unfold MemoryCacheService.mget RedisCacheService.mget
      simp only [List.map_cons, read, others, List.cons.injEq, true_and]
      exact List.map_congr_left fun other _ => same.get other

/-! ### Writing -/

/-- A JSON value with a lifetime, be it zero. -/
def Writable (write : CacheWrite) : Prop := write.value.isJson = true ∧ write.ttl ≠ none

theorem Writable.defined {write : CacheWrite} (writable : Writable write) :
    write.value ≠ .undefined := by
  intro missing
  have json := writable.1
  rw [missing] at json
  cases json

theorem Writable.expiry {write : CacheWrite} (writable : Writable write) :
    (if write.ttl.getD 0 = 0 then none else some (now + write.ttl.getD 0 * 1000)) =
      if 0 < write.ttl.getD options.defaultTtl then
        some (now + write.ttl.getD options.defaultTtl * 1000) else none := by
  obtain ⟨ttl, given⟩ := Option.ne_none_iff_exists'.mp writable.2
  rw [given, Option.getD_some, Option.getD_some]
  by_cases zero : ttl = 0
  · rw [if_pos zero, if_neg (by omega)]
  · rw [if_neg zero, if_pos (by omega)]

theorem memory_set_below {key : String} {value : JsValue} {ttl : Option Nat}
    (below : cache.size < options.maxEntries) :
    MemoryCacheService.set options now key value ttl cache =
      cache.set (getFullKey options key)
        ⟨value, if ttl.getD 0 = 0 then none else some (now + ttl.getD 0 * 1000)⟩ := by
  unfold MemoryCacheService.set
  simp only [evict_below below]

theorem memory_set {write : CacheWrite} (same : Same now left right) (writable : Writable write)
    (below : left.size < options.maxEntries) :
    ∃ after, RedisCacheService.set options now write.key write.value write.ttl right = some after ∧
      Same now (MemoryCacheService.set options now write.key write.value write.ttl left) after := by
  refine ⟨_, if_neg writable.defined, ?_⟩
  rw [memory_set_below below, JsValue.roundTrip_of_isJson _ writable.1, writable.expiry]
  exact same.set _ _

/-- No entry of the key expires at this very instant. -/
def OffExpiry (options : CacheOptions) (now : Nat) (key : String) (cache : Store) : Prop :=
  ∀ entry, cache.get? (getFullKey options key) = some entry → entry.expiry ≠ some now

/-- Off the instant of expiry, a claim is won exactly if the key does not exist. -/
theorem memory_claim {write : CacheWrite} (off : OffExpiry options now write.key cache) :
    MemoryCacheService.setIfNotExist options now write.key write.value write.ttl cache =
      if (RedisCacheService.exists_ options now write.key cache) then (false, cache)
      else (true, MemoryCacheService.set options now write.key write.value write.ttl cache) := by
  unfold MemoryCacheService.setIfNotExist RedisCacheService.exists_
  cases found : cache.get? (getFullKey options write.key) with
  | none =>
      rw [live_of_missing found]
      rfl
  | some entry =>
      have apart := off entry found
      have holds : (entry.expiry.all fun expiry => decide (now < expiry)) = !entry.expired now := by
        unfold CacheEntry.expired
        cases ends : entry.expiry with
        | none => rfl
        | some expiry =>
            have differs : expiry ≠ now := fun equal => apart (by rw [ends, equal])
            simp only [Option.all_some, Option.any_some]
            rw [← decide_not]
            exact decide_eq_decide.mpr (by omega)
      simp only [holds]
      cases expired : entry.expired now with
      | true =>
          rw [live_of_expired found expired]
          rfl
      | false =>
          rw [live_of_fresh found expired]
          rfl

theorem memory_setIfNotExist {write : CacheWrite} (same : Same now left right)
    (writable : Writable write) (positive : write.ttl ≠ some 0)
    (below : left.size < options.maxEntries) (off : OffExpiry options now write.key left) :
    ∃ after, RedisCacheService.setIfNotExist options now write.key write.value write.ttl right =
        some ((MemoryCacheService.setIfNotExist options now write.key write.value write.ttl
          left).1, after) ∧
      Same now (MemoryCacheService.setIfNotExist options now write.key write.value write.ttl
        left).2 after := by
  obtain ⟨ttl, given⟩ := Option.ne_none_iff_exists'.mp writable.2
  have lifetime : ttl ≠ 0 := fun zero => positive (by rw [given, zero])
  obtain ⟨after, written, sameAfter⟩ := memory_set same writable below
  rw [memory_claim off]
  unfold RedisCacheService.exists_ RedisCacheService.setIfNotExist
  rw [same]
  unfold RedisCacheService.set at written
  rw [if_neg writable.defined] at written
  simp only [given, Option.getD_some] at written ⊢
  rw [if_neg (not_or.mpr ⟨writable.defined, lifetime⟩)]
  rw [if_pos (Nat.pos_of_ne_zero lifetime)] at written
  cases present : (live now right (getFullKey options write.key)).isSome with
  | true => exact ⟨right, rfl, same⟩
  | false =>
      simp only [Bool.false_eq_true, if_false]
      refine ⟨after, ?_, ?_⟩
      · rw [← Option.some.inj written]
      · rw [← given]
        exact sameAfter

theorem memory_mset (writes : List CacheWrite) (same : Same now left right)
    (writable : ∀ write ∈ writes, Writable write)
    (below : left.size + writes.length ≤ options.maxEntries) :
    ∃ after, RedisCacheService.mset options now writes right = some after ∧
      Same now (MemoryCacheService.mset options now writes left) after := by
  induction writes generalizing left right with
  | nil => exact ⟨right, rfl, same⟩
  | cons write rest ih =>
      rw [List.length_cons] at below
      have room : left.size < options.maxEntries := by omega
      obtain ⟨after, written, sameAfter⟩ := memory_set same (writable write (by simp)) room
      have smaller : (MemoryCacheService.set options now write.key write.value write.ttl
          left).size ≤ left.size + 1 := by
        rw [memory_set_below room]
        exact size_set_le _ _ _
      obtain ⟨last, ends, sameLast⟩ := ih sameAfter (fun other member => writable other (by
        simp [member])) (by omega)
      refine ⟨last, ?_, sameLast⟩
      rw [RedisCacheService.mset, written, Option.bind_some, ends]

theorem Same.mdelete (keys : List String) (same : Same now left right) :
    Same now (MemoryCacheService.mdelete options keys left)
      (RedisCacheService.mdelete options keys right) := by
  induction keys generalizing left right with
  | nil => exact same
  | cons key rest ih => exact ih (same.erase _)

/-! ### Counting -/

/-- An integer that a double holds exactly, with its neighbours. -/
def SafeInteger (number : Int) : Prop := number.natAbs < 9007199254740992

/-- The key is missing, or holds this count without an expiry. -/
def CountsFrom (options : CacheOptions) (now : Nat) (key : String) (cache : Store) (count : Int) :
    Prop :=
  (live now cache (getFullKey options key) = none ∧ count = 0) ∨
    live now cache (getFullKey options key) = some ⟨.num count, none⟩

theorem integerOf_safe {number : Int} (safe : SafeInteger number) :
    RedisCacheService.integerOf (.num number) = some number := by
  unfold SafeInteger at safe
  have small : -9223372036854775808 ≤ number ∧ number < 9223372036854775808 := by omega
  exact if_pos ⟨Rat.den_intCast number, by rw [Rat.num_intCast]; exact small⟩

theorem redis_incrBy {key : String} {count change : Int}
    (counts : CountsFrom options now key right count) (safe : SafeInteger count)
    (safeSum : SafeInteger (count + change)) :
    RedisCacheService.incrBy options now key change right =
      some (count + change,
        right.set (getFullKey options key) ⟨.num (count + change : Int), none⟩) := by
  unfold RedisCacheService.incrBy
  rcases counts with ⟨missing, rfl⟩ | held
  · simp only [missing, Option.bind_some, Option.bind_eq_bind, Option.bind_none]
    rw [integerOf_safe safeSum]
    rfl
  · simp only [held, integerOf_safe safe, Option.bind_some, Option.bind_eq_bind]
    rw [integerOf_safe safeSum]
    rfl

/-- What the memory cache reads of a count, with `|| 0`. -/
theorem memory_reads_count {key : String} {count : Int}
    (counts : CountsFrom options now key cache count) :
    (if (MemoryCacheService.get options now key cache).1.truthy then
      (MemoryCacheService.get options now key cache).1 else .num 0) = .num count := by
  rw [(memory_get options now cache key).1, RedisCacheService.get]
  rcases counts with ⟨missing, rfl⟩ | held
  · rw [missing]
    rfl
  · rw [held, Option.map_some, Option.getD_some]
    by_cases zero : (count : Rat) = 0
    · simp [JsValue.truthy, zero]
    · simp [JsValue.truthy, zero]

theorem CountsFrom.of_same {key : String} {count : Int} (same : Same now left right)
    (counts : CountsFrom options now key left count) : CountsFrom options now key right count := by
  unfold CountsFrom at counts ⊢
  rwa [same] at counts

theorem memory_count {key : String} {count change : Int} (newValue : JsValue → JsValue)
    (same : Same now left right) (below : left.size < options.maxEntries)
    (counts : CountsFrom options now key left count) (safe : SafeInteger count)
    (safeSum : SafeInteger (count + change))
    (adds : newValue (MemoryCacheService.get options now key left).1 =
      .num (count + change : Int)) :
    ∃ after, RedisCacheService.incrBy options now key change right = some (count + change, after) ∧
      (MemoryCacheService.count options now key newValue left).1 = .num (count + change : Int) ∧
      Same now (MemoryCacheService.count options now key newValue left).2 after := by
  refine ⟨_, redis_incrBy (counts.of_same same) safe safeSum, adds, ?_⟩
  obtain ⟨-, sameRead, smaller⟩ := memory_get options now left key
  unfold MemoryCacheService.count
  simp only [adds]
  rw [memory_set_below (by omega)]
  exact (sameRead.trans same).set _ _

theorem memory_incr (arithmetic : JsArithmetic) {key : String} {count change : Int}
    (same : Same now left right) (below : left.size < options.maxEntries)
    (counts : CountsFrom options now key left count) (safe : SafeInteger count)
    (safeChange : SafeInteger change) (safeSum : SafeInteger (count + change)) :
    (MemoryCacheService.incr options arithmetic now key change left).1 =
        (RedisCacheService.incr options now key change right).1 ∧
      Same now (MemoryCacheService.incr options arithmetic now key change left).2
        (RedisCacheService.incr options now key change right).2 := by
  have adds : MemoryCacheService.increased arithmetic
      (MemoryCacheService.get options now key left).1 change = .num (count + change : Int) := by
    unfold MemoryCacheService.increased
    rw [memory_reads_count counts, Rat.intCast_add]
  obtain ⟨after, wrote, value, sameAfter⟩ := memory_count
    (fun current => MemoryCacheService.increased arithmetic current change) same below counts safe
    safeSum adds
  unfold RedisCacheService.incr MemoryCacheService.incr
  rw [integerOf_safe safeChange, Option.bind_some, wrote]
  exact ⟨value, sameAfter⟩

theorem memory_decr (arithmetic : JsArithmetic) {key : String} {count change : Int}
    (same : Same now left right) (below : left.size < options.maxEntries)
    (counts : CountsFrom options now key left count) (safe : SafeInteger count)
    (safeChange : SafeInteger change) (safeSum : SafeInteger (count - change)) :
    (MemoryCacheService.decr options arithmetic now key change left).1 =
        (RedisCacheService.decr options now key change right).1 ∧
      Same now (MemoryCacheService.decr options arithmetic now key change left).2
        (RedisCacheService.decr options now key change right).2 := by
  rw [Int.sub_eq_add_neg] at safeSum
  have adds : MemoryCacheService.decreased arithmetic
      (MemoryCacheService.get options now key left).1 change = .num (count + -change : Int) := by
    unfold MemoryCacheService.decreased
    rw [memory_reads_count counts, Rat.intCast_add, Rat.intCast_neg,
      ← Rat.sub_eq_add_neg]
  obtain ⟨after, wrote, value, sameAfter⟩ := memory_count
    (fun current => MemoryCacheService.decreased arithmetic current change) same below counts safe
    safeSum adds
  unfold RedisCacheService.decr MemoryCacheService.decr
  rw [integerOf_safe safeChange, Option.bind_some, wrote]
  exact ⟨value, sameAfter⟩

/-! ### Remaining lifetimes -/

/-- The key is stored, and the seconds it has left round up as they round to the nearest. -/
def RoundsAlike (options : CacheOptions) (now : Nat) (key : String) (cache : Store) : Prop :=
  ∃ entry, cache.get? (getFullKey options key) = some entry ∧
    ∀ expiry, entry.expiry = some expiry → expiry < now ∨
      now < expiry ∧ ((expiry - now) % 1000 = 0 ∨ 500 ≤ (expiry - now) % 1000)

theorem memory_ttl {key : String} (same : Same now left right)
    (alike : RoundsAlike options now key left) :
    MemoryCacheService.ttl options now key left = RedisCacheService.ttl options now key right := by
  obtain ⟨entry, found, rounds⟩ := alike
  unfold MemoryCacheService.ttl RedisCacheService.ttl
  rw [← same, found, Option.bind_some]
  cases ends : entry.expiry with
  | none =>
      have fresh : entry.expired now = false := by rw [CacheEntry.expired, ends]; rfl
      rw [live_of_fresh found fresh]
      simp only [ends]
  | some expiry =>
      rcases rounds expiry ends with past | ⟨ahead, even⟩
      · have expired : entry.expired now = true := by
          rw [CacheEntry.expired, ends]
          exact decide_eq_true past
        rw [live_of_expired found expired]
        simp only
        rw [if_neg (by omega)]
      · have fresh : entry.expired now = false := by
          rw [CacheEntry.expired, ends]
          exact decide_eq_false (by omega)
        rw [live_of_fresh found fresh]
        simp only [ends]
        rw [if_pos ahead]
        congr 1
        omega

end Same

/-! ### The calls on which the services agree -/

/-- A count below the limit, of an integer without an expiry, by an integer. -/
def Countable (options : CacheOptions) (now : Nat) (key : String) (by_ : Rat)
    (change : Int → Int → Int) (cache : Store) : Prop :=
  cache.size < options.maxEntries ∧ ∃ count amount : Int, by_ = amount ∧
    CountsFrom options now key cache count ∧ SafeInteger count ∧ SafeInteger amount ∧
      SafeInteger (change count amount)

/-- A call that touches no difference of the services, on this state of the memory cache. -/
def Portable (options : CacheOptions) (now : Nat) (cache : Store) : CacheCall → Prop
  | .set write => Writable write ∧ cache.size < options.maxEntries
  | .setIfNotExist write => Writable write ∧ write.ttl ≠ some 0 ∧
      cache.size < options.maxEntries ∧ OffExpiry options now write.key cache
  | .mset writes => (∀ write ∈ writes, Writable write) ∧
      cache.size + writes.length ≤ options.maxEntries
  | .incr key by_ => Countable options now key by_ (· + ·) cache
  | .decr key by_ => Countable options now key by_ (· - ·) cache
  | .ttl key => RoundsAlike options now key cache
  | .get _ | .exists_ _ | .delete _ | .mget _ | .mdelete _ => True

section Agreement

variable {options : CacheOptions} {arithmetic : JsArithmetic} {now : Nat} {left right : Store}

theorem call_agrees (arithmetic : JsArithmetic) (same : Same now left right) (call : CacheCall)
    (portable : Portable options now left call) :
    (memoryCall options arithmetic now left call).1 = (redisCall options now right call).1 ∧
      Same now (memoryCall options arithmetic now left call).2
        (redisCall options now right call).2 := by
  cases call with
  | set write =>
      obtain ⟨writable, below⟩ := portable
      obtain ⟨after, wrote, sameAfter⟩ := memory_set same writable below
      simp only [memoryCall, redisCall, wrote]
      exact ⟨trivial, sameAfter⟩
  | setIfNotExist write =>
      obtain ⟨writable, positive, below, off⟩ := portable
      obtain ⟨after, wrote, sameAfter⟩ := memory_setIfNotExist same writable positive below off
      simp only [memoryCall, redisCall, wrote]
      exact ⟨trivial, sameAfter⟩
  | get key =>
      obtain ⟨read, sameRead, -⟩ := memory_get options now left key
      simp only [memoryCall, redisCall, read, same.get key]
      exact ⟨trivial, sameRead.trans same⟩
  | exists_ key =>
      obtain ⟨found, sameFound⟩ := memory_exists options now left key
      simp only [memoryCall, redisCall, found, RedisCacheService.exists_]
      rw [same]
      exact ⟨rfl, sameFound.trans same⟩
  | delete key => exact ⟨rfl, same.erase _⟩
  | mget keys =>
      obtain ⟨read, sameRead⟩ := memory_mget options now left keys
      simp only [memoryCall, redisCall, read, RedisCacheService.mget]
      refine ⟨congrArg CacheAnswer.values ?_, sameRead.trans same⟩
      exact List.map_congr_left fun key _ => same.get key
  | mset writes =>
      obtain ⟨writable, below⟩ := portable
      obtain ⟨after, wrote, sameAfter⟩ := memory_mset writes same writable below
      simp only [memoryCall, redisCall, wrote]
      exact ⟨trivial, sameAfter⟩
  | mdelete keys => exact ⟨rfl, same.mdelete keys⟩
  | incr key by_ =>
      obtain ⟨below, count, amount, rfl, counts, safe, safeAmount, safeSum⟩ := portable
      obtain ⟨value, sameAfter⟩ := memory_incr arithmetic same below counts safe
        safeAmount safeSum
      exact ⟨congrArg CacheAnswer.value value, sameAfter⟩
  | decr key by_ =>
      obtain ⟨below, count, amount, rfl, counts, safe, safeAmount, safeSum⟩ := portable
      obtain ⟨value, sameAfter⟩ := memory_decr arithmetic same below counts safe
        safeAmount safeSum
      exact ⟨congrArg CacheAnswer.value value, sameAfter⟩
  | ttl key => exact ⟨congrArg CacheAnswer.seconds (memory_ttl same portable), same⟩

/-- Every call of the sequence is portable when it is made. -/
def AllPortable (options : CacheOptions) (arithmetic : JsArithmetic) (running : Running) :
    List CacheMoment → Prop
  | [] => True
  | first :: rest =>
      (∀ call, first = .call call → Portable options running.now running.cache call) ∧
        AllPortable options arithmetic (memoryMoment options arithmetic running first).2 rest

theorem moment_agrees (arithmetic : JsArithmetic) {memory redis : Running}
    (clock : memory.now = redis.now)
    (same : Same memory.now memory.cache redis.cache) (moment : CacheMoment)
    (portable : ∀ call, moment = .call call → Portable options memory.now memory.cache call) :
    (memoryMoment options arithmetic memory moment).1 = (redisMoment options redis moment).1 ∧
      (memoryMoment options arithmetic memory moment).2.now =
        (redisMoment options redis moment).2.now ∧
      Same (memoryMoment options arithmetic memory moment).2.now
        (memoryMoment options arithmetic memory moment).2.cache
        (redisMoment options redis moment).2.cache := by
  obtain ⟨now, cache⟩ := memory
  obtain ⟨_, other⟩ := redis
  cases clock
  cases moment with
  | passes millis => exact ⟨rfl, rfl, same.later (Nat.le_add_right now millis)⟩
  | cleanup => exact ⟨rfl, rfl, same_cleanup.trans same⟩
  | call call =>
      obtain ⟨answer, sameAfter⟩ := call_agrees arithmetic same call
        (portable call rfl)
      exact ⟨congrArg some answer, rfl, sameAfter⟩

theorem play_agrees (moments : List CacheMoment) {memory redis : Running}
    (clock : memory.now = redis.now) (same : Same memory.now memory.cache redis.cache)
    (portable : AllPortable options arithmetic memory moments) :
    (play (memoryMoment options arithmetic) memory moments).1 =
        (play (redisMoment options) redis moments).1 ∧
      Same (play (memoryMoment options arithmetic) memory moments).2.now
        (play (memoryMoment options arithmetic) memory moments).2.cache
        (play (redisMoment options) redis moments).2.cache := by
  induction moments generalizing memory redis with
  | nil => exact ⟨rfl, same⟩
  | cons first rest ih =>
      obtain ⟨answer, clockAfter, sameAfter⟩ :=
        moment_agrees arithmetic clock same first portable.1
      obtain ⟨answers, sameLast⟩ := ih clockAfter sameAfter portable.2
      refine ⟨?_, sameLast⟩
      simp only [play]
      rw [answer, answers]

end Agreement

/-! ### Claims -/

/-- The call writes or deletes the key, other than by claiming it. -/
def Touches (key : String) : CacheCall → Prop
  | .set write => write.key = key
  | .delete other => other = key
  | .mset writes => ∃ write ∈ writes, write.key = key
  | .mdelete keys => key ∈ keys
  | .incr other _ | .decr other _ => other = key
  | .get _ | .exists_ _ | .mget _ | .ttl _ | .setIfNotExist _ => False

section Claims

variable {options : CacheOptions} {arithmetic : JsArithmetic} {now : Nat} {cache : Store}
  {key : String} {entry : CacheEntry}

/-- The entry is stored under the key, and does not expire yet. -/
structure Holds (options : CacheOptions) (now : Nat) (key : String) (entry : CacheEntry)
    (cache : Store) : Prop where
  stored : cache.get? (getFullKey options key) = some entry
  ahead : ∀ expiry, entry.expiry = some expiry → now < expiry

theorem Holds.fresh (holds : Holds options now key entry cache) : entry.expired now = false := by
  unfold CacheEntry.expired
  cases ends : entry.expiry with
  | none => rfl
  | some expiry =>
      have ahead := holds.ahead expiry ends
      exact decide_eq_false (by omega)

theorem Holds.erase_expired (holds : Holds options now key entry cache) {fullKey : String}
    {other : CacheEntry} (found : cache.get? fullKey = some other)
    (expired : other.expired now = true) :
    Holds options now key entry (cache.erase fullKey) := by
  refine ⟨?_, holds.ahead⟩
  rw [OrderedMap.get?_erase, if_neg, holds.stored]
  rintro rfl
  rw [holds.stored] at found
  cases found
  rw [holds.fresh] at expired
  cases expired

theorem Holds.get (holds : Holds options now key entry cache) (other : String) :
    Holds options now key entry (MemoryCacheService.get options now other cache).2 := by
  cases found : cache.get? (getFullKey options other) with
  | none => rwa [MemoryCacheService.get_of_missing found]
  | some read =>
      cases expired : read.expired now with
      | true =>
          rw [MemoryCacheService.get_of_expired found expired]
          exact holds.erase_expired found expired
      | false => rwa [MemoryCacheService.get_of_live found expired]

theorem Holds.exists_ (holds : Holds options now key entry cache) (other : String) :
    Holds options now key entry (MemoryCacheService.exists_ options now other cache).2 := by
  unfold MemoryCacheService.exists_
  cases found : cache.get? (getFullKey options other) with
  | none => simpa only [found] using holds
  | some read =>
      cases expired : read.expired now with
      | true =>
          simp only [found, expired, if_true]
          exact holds.erase_expired found expired
      | false => simpa only [found, expired, Bool.false_eq_true, if_false] using holds

theorem Holds.mget (keys : List String) (holds : Holds options now key entry cache) :
    Holds options now key entry (MemoryCacheService.mget options now keys cache).2 := by
  induction keys generalizing cache with
  | nil => exact holds
  | cons other rest ih => exact ih (holds.get other)

theorem Holds.set (holds : Holds options now key entry cache) {other : String} {value : JsValue}
    {ttl : Option Nat} (apart : other ≠ key) (below : cache.size < options.maxEntries) :
    Holds options now key entry (MemoryCacheService.set options now other value ttl cache) := by
  refine ⟨?_, holds.ahead⟩
  rw [memory_set_below below, OrderedMap.get?_set_of_ne, holds.stored]
  exact fun same => apart (getFullKey_injective options same)

theorem Holds.mset (writes : List CacheWrite) (holds : Holds options now key entry cache)
    (apart : ∀ write ∈ writes, write.key ≠ key)
    (below : cache.size + writes.length ≤ options.maxEntries) :
    Holds options now key entry (MemoryCacheService.mset options now writes cache) := by
  induction writes generalizing cache with
  | nil => exact holds
  | cons write rest ih =>
      rw [List.length_cons] at below
      have room : cache.size < options.maxEntries := by omega
      have smaller := size_set_le cache (getFullKey options write.key) ⟨write.value,
        if write.ttl.getD 0 = 0 then none else some (now + write.ttl.getD 0 * 1000)⟩
      rw [← memory_set_below room] at smaller
      apply ih (holds.set (apart write (by simp)) room)
      · exact fun other member => apart other (by simp [member])
      · omega

theorem Holds.delete (holds : Holds options now key entry cache) {other : String}
    (apart : other ≠ key) :
    Holds options now key entry (MemoryCacheService.delete options other cache) := by
  refine ⟨?_, holds.ahead⟩
  rw [MemoryCacheService.delete, OrderedMap.get?_erase, if_neg, holds.stored]
  exact fun same => apart (getFullKey_injective options same).symm

theorem Holds.mdelete (keys : List String) (holds : Holds options now key entry cache)
    (apart : key ∉ keys) :
    Holds options now key entry (MemoryCacheService.mdelete options keys cache) := by
  induction keys generalizing cache with
  | nil => exact holds
  | cons other rest ih =>
      rw [List.mem_cons, not_or] at apart
      exact ih (holds.delete fun same => apart.1 same.symm) apart.2

theorem Holds.count (holds : Holds options now key entry cache) {other : String}
    {newValue : JsValue → JsValue} (apart : other ≠ key) (below : cache.size < options.maxEntries) :
    Holds options now key entry (MemoryCacheService.count options now other newValue cache).2 := by
  obtain ⟨-, -, smaller⟩ := memory_get options now cache other
  exact (holds.get other).set apart (by omega)

/-- A claim of a key that is held loses and changes nothing. -/
theorem Holds.claim (holds : Holds options now key entry cache) (value : JsValue)
    (ttl : Option Nat) :
    MemoryCacheService.setIfNotExist options now key value ttl cache = (false, cache) := by
  unfold MemoryCacheService.setIfNotExist
  rw [holds.stored]
  simp only
  rw [if_pos]
  cases ends : entry.expiry with
  | none => rfl
  | some expiry => exact decide_eq_true (holds.ahead expiry ends)

theorem Holds.call (holds : Holds options now key entry cache) {call : CacheCall}
    (portable : Portable options now cache call) (apart : ¬ Touches key call) :
    Holds options now key entry (memoryCall options arithmetic now cache call).2 := by
  cases call with
  | set write => exact holds.set apart portable.2
  | setIfNotExist write =>
      by_cases same : write.key = key
      · subst same
        simp only [memoryCall]
        rw [holds.claim]
        exact holds
      · have outcomes : MemoryCacheService.setIfNotExist options now write.key write.value
            write.ttl cache = (false, cache) ∨ _ :=
          MemoryCacheService.setIfNotExist_cases write.key write.value write.ttl
        rcases outcomes with lost | won
        · simp only [memoryCall, lost]
          exact holds
        · simp only [memoryCall, won]
          exact holds.set same portable.2.2.1
  | get other => exact holds.get other
  | exists_ other => exact holds.exists_ other
  | delete other => exact holds.delete apart
  | mget keys => exact holds.mget keys
  | mset writes =>
      exact holds.mset writes (fun write member same => apart ⟨write, member, same⟩) portable.2
  | mdelete keys => exact holds.mdelete keys apart
  | incr other by_ =>
      simp only [memoryCall, MemoryCacheService.incr]
      exact holds.count apart portable.1
  | decr other by_ =>
      simp only [memoryCall, MemoryCacheService.decr]
      exact holds.count apart portable.1
  | ttl other => exact holds

theorem now_le_play (moments : List CacheMoment) {running : Running} :
    running.now ≤ (play (memoryMoment options arithmetic) running moments).2.now := by
  induction moments generalizing running with
  | nil => exact Nat.le_refl _
  | cons first rest ih =>
      have once : running.now ≤ (memoryMoment options arithmetic running first).2.now := by
        cases first with
        | passes millis => exact Nat.le_add_right _ _
        | cleanup => exact Nat.le_refl _
        | call call => exact Nat.le_refl _
      exact once.trans ih

/-- A key stays held until its expiry, unless it is touched. -/
theorem Holds.play (moments : List CacheMoment) {running : Running}
    (holds : Holds options running.now key entry running.cache)
    (portable : AllPortable options arithmetic running moments)
    (apart : ∀ call, .call call ∈ moments → ¬ Touches key call)
    (within : ∀ expiry, entry.expiry = some expiry →
      (SelfService.play (memoryMoment options arithmetic) running moments).2.now < expiry) :
    Holds options (SelfService.play (memoryMoment options arithmetic) running moments).2.now key
      entry (SelfService.play (memoryMoment options arithmetic) running moments).2.cache := by
  induction moments generalizing running with
  | nil => exact holds
  | cons first rest ih =>
      obtain ⟨portableNow, portableLater⟩ := portable
      refine ih ?_ portableLater (fun call member => apart call (by simp [member])) within
      cases first with
      | passes millis =>
          refine ⟨holds.stored, ?_⟩
          intro expiry ends
          exact Nat.lt_of_le_of_lt (now_le_play rest) (within expiry ends)
      | cleanup =>
          refine ⟨?_, holds.ahead⟩
          have kept : (running.cache.get? (getFullKey options key)).any
              (fun entry => entry.expired running.now) = false := by
            rw [holds.stored]
            exact holds.fresh
          simp only [memoryMoment, MemoryCacheService.cleanup, OrderedMap.get?_eraseWhere, kept,
            Bool.false_eq_true, if_false]
          exact holds.stored
      | call call => exact holds.call (portableNow call rfl) (apart call (by simp))

end Claims

/-- Two callers cannot both win a claim within one lifetime. -/
def ClaimedOnce (options : CacheOptions) (arithmetic : JsArithmetic) (running : Running) : Prop :=
  ∀ (write : CacheWrite) (ttl : Nat) (again : CacheWrite), write.ttl = some ttl →
    again.key = write.key →
    running.cache.size < options.maxEntries →
    (MemoryCacheService.setIfNotExist options running.now write.key write.value write.ttl
      running.cache).1 = true →
    ∀ moments : List CacheMoment, let claimed : Running := ⟨running.now,
        (MemoryCacheService.setIfNotExist options running.now write.key write.value write.ttl
          running.cache).2⟩
      AllPortable options arithmetic claimed moments →
      (∀ call, .call call ∈ moments → ¬ Touches write.key call) →
      (ttl = 0 ∨ (play (memoryMoment options arithmetic) claimed moments).2.now <
        running.now + ttl * 1000) →
      (MemoryCacheService.setIfNotExist options
        (play (memoryMoment options arithmetic) claimed moments).2.now again.key again.value
          again.ttl (play (memoryMoment options arithmetic) claimed moments).2.cache).1 = false

theorem claimed_once (options : CacheOptions) (arithmetic : JsArithmetic) (running : Running) :
    ClaimedOnce options arithmetic running := by
  intro write ttl again given sameKey below won moments claimed portable apart within
  rcases MemoryCacheService.setIfNotExist_cases write.key write.value write.ttl with lost | took
  · rw [lost] at won
    cases won
  · have holds : Holds options claimed.now write.key
        ⟨write.value, if ttl = 0 then none else some (running.now + ttl * 1000)⟩ claimed.cache := by
      refine ⟨?_, ?_⟩
      · change (MemoryCacheService.setIfNotExist options running.now write.key write.value
          write.ttl running.cache).2.get? _ = _
        rw [took, memory_set_below below, OrderedMap.get?_set_self, given]
        rfl
      · intro expiry ends
        simp only at ends
        split at ends
        · cases ends
        · cases ends
          change running.now < running.now + ttl * 1000
          omega
    have held := holds.play moments portable apart (by
      intro expiry ends
      simp only at ends
      split at ends
      · cases ends
      · rename_i lasting
        cases ends
        exact within.resolve_left lasting)
    rw [sameKey, held.claim]

/-- Over portable calls the memory cache answers as the Redis cache does, a claim is won exactly
if the key does not exist, and by one caller in its lifetime. -/
theorem memory_refines_redis (options : CacheOptions) (arithmetic : JsArithmetic) (start : Nat)
    (moments : List CacheMoment)
    (portable : AllPortable options arithmetic ⟨start, OrderedMap.empty⟩ moments) :
    (play (memoryMoment options arithmetic) ⟨start, OrderedMap.empty⟩ moments).1 =
        (play (redisMoment options) ⟨start, OrderedMap.empty⟩ moments).1 ∧
      let last := (play (memoryMoment options arithmetic) ⟨start, OrderedMap.empty⟩ moments).2
      (∀ write : CacheWrite, OffExpiry options last.now write.key last.cache →
        (MemoryCacheService.setIfNotExist options last.now write.key write.value write.ttl
            last.cache).1 =
          !(MemoryCacheService.exists_ options last.now write.key last.cache).1) ∧
        ClaimedOnce options arithmetic last := by
  have agrees := play_agrees moments rfl (.refl start _) portable
  refine ⟨agrees.1, ?_, claimed_once options arithmetic _⟩
  intro write off
  rw [memory_claim off, (memory_exists options _ _ write.key).1]
  split
  · rename_i present
    rw [present]
    rfl
  · rename_i absent
    rw [Bool.not_eq_true] at absent
    rw [absent]
    rfl

/-! ### A value without a lifetime -/

def defaultCache : CacheOptions := CacheOptions.resolve none none none

def noArithmetic : JsArithmetic := ⟨fun value _ => value, fun value _ => value⟩

/-- The default lifetime of 300 seconds passes. -/
def outlived : List CacheMoment :=
  [.call (.set ⟨"greeting", .str "xin chào", none⟩), .passes 301000, .call (.get "greeting")]

/-- Redis has forgotten the value, and the memory cache has not. -/
theorem outlived_differs :
    (play (memoryMoment defaultCache noArithmetic) ⟨0, OrderedMap.empty⟩ outlived).1 ≠
      (play (redisMoment defaultCache) ⟨0, OrderedMap.empty⟩ outlived).1 := by
  decide

/-- A lock is claimed for thirty seconds, and looked at after ten. -/
def lockTaken : List CacheMoment :=
  [.call (.setIfNotExist ⟨"lock", .str "worker-1", some 30⟩), .passes 10000, .call (.ttl "lock"),
    .call (.get "lock")]

theorem lockTaken_portable :
    AllPortable defaultCache noArithmetic ⟨0, OrderedMap.empty⟩ lockTaken := by
  refine ⟨?_, nofun, ?_, ?_, trivial⟩
  · rintro _ ⟨⟩
    exact ⟨⟨rfl, by simp⟩, by simp, by decide, fun entry found => nomatch found⟩
  · rintro _ ⟨⟩
    refine ⟨⟨.str "worker-1", some 30000⟩, rfl, ?_⟩
    rintro _ ⟨⟩
    exact .inr (by decide)
  · rintro _ ⟨⟩
    exact trivial

theorem memory_refines_redis_lock :
    (play (memoryMoment defaultCache noArithmetic) ⟨0, OrderedMap.empty⟩ lockTaken).1 =
        (play (redisMoment defaultCache) ⟨0, OrderedMap.empty⟩ lockTaken).1 ∧
      let last := (play (memoryMoment defaultCache noArithmetic) ⟨0, OrderedMap.empty⟩ lockTaken).2
      (∀ write : CacheWrite, OffExpiry defaultCache last.now write.key last.cache →
        (MemoryCacheService.setIfNotExist defaultCache last.now write.key write.value write.ttl
            last.cache).1 =
          !(MemoryCacheService.exists_ defaultCache last.now write.key last.cache).1) ∧
        ClaimedOnce defaultCache noArithmetic last :=
  memory_refines_redis defaultCache noArithmetic 0 lockTaken lockTaken_portable

end SelfService
