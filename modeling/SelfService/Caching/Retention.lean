/-
How long a cache that works keeps an entry.

Under `CacheEnvironment.working` an entry stays under its key until it expires, is
overwritten or is deleted: nothing overflows, and only what has expired is
dropped.
-/

import SelfService.Caching.CacheService

namespace SelfService

open Data

/-- The commands that may change or delete what is kept under a key. -/
def Backend.touches (backend : Backend) (fullKey : String) : CacheCommand → Bool
  | .set key _ _ | .setIfNotExist key _ _ | .delete key =>
      getFullKey backend.options key = fullKey
  | .deleteByPattern pattern => backend.selects pattern fullKey
  | .del fullKeys => fullKeys.contains fullKey
  | .get _ | .ttl _ | .keys _ => false

variable {options : CacheOptions} {backend : Backend} {now : Nat} {cache after : Store}
  {fullKey : String} {entry : CacheEntry}

theorem MemoryCacheService.get?_of_get {key : String} (found : cache.get? fullKey = some entry)
    (fresh : entry.expired now = false) :
    (get options now key cache).2.get? fullKey = some entry := by
  cases stored : cache.get? (getFullKey options key) with
  | none =>
      rw [get_of_missing stored]
      exact found
  | some other =>
      cases gone : other.expired now with
      | false =>
          rw [get_of_live stored gone]
          exact found
      | true =>
          rw [get_of_expired stored gone, OrderedMap.get?_erase]
          split
          · rename_i same
            rw [same, stored] at found
            cases found
            rw [gone] at fresh
            cases fresh
          · exact found

/-- Without an overflow, a write changes its own key only. -/
theorem MemoryCacheService.get?_set_of_ne {key : String} {value : JsValue} {ttl : Option Nat}
    (room : (options.maxEntries ≤ cache.size && !cache.contains (getFullKey options key)) = false)
    (different : getFullKey options key ≠ fullKey) :
    (set options now key value ttl cache).get? fullKey = cache.get? fullKey := by
  unfold set evict
  simp only [room, Bool.false_eq_true, if_false]
  exact OrderedMap.get?_set_of_ne _ _ different

theorem RedisCacheService.get?_set_of_ne {key : String} {value : JsValue} {ttl : Option Nat}
    (written : set options now key value ttl cache = some after)
    (different : getFullKey options key ≠ fullKey) : after.get? fullKey = cache.get? fullKey := by
  unfold set at written
  split at written
  · cases written
  · cases written
    exact OrderedMap.get?_set_of_ne _ _ different

theorem RedisCacheService.get?_setIfNotExist_of_ne {key : String} {value : JsValue}
    {ttl : Option Nat} {claimed : Bool × Store}
    (written : setIfNotExist options now key value ttl cache = some claimed)
    (different : getFullKey options key ≠ fullKey) :
    claimed.2.get? fullKey = cache.get? fullKey := by
  unfold setIfNotExist at written
  simp only at written
  split at written
  · cases written
  · split at written
    · cases written
      rfl
    · cases written
      exact OrderedMap.get?_set_of_ne _ _ different

namespace Backend

theorem retained_memory (kind : backend.kind = .memory) {command : CacheCommand}
    {answer : command.Answer} (room : backend.overflows cache command = false)
    (performed : backend.performMemory now cache command answer = some after)
    (untouched : backend.touches fullKey command = false)
    (found : cache.get? fullKey = some entry) (fresh : entry.expired now = false) :
    after.get? fullKey = some entry := by
  cases command with
  | get key =>
      cases answer with
      | failed applied reason => simp [performMemory] at performed
      | ok value =>
          simp only [performMemory] at performed
          obtain ⟨-, agreed⟩ := Option.ite_none_right_eq_some.mp performed
          cases agreed
          exact MemoryCacheService.get?_of_get found fresh
  | set key value ttl =>
      have other : getFullKey backend.options key ≠ fullKey := of_decide_eq_false untouched
      have within := room
      simp only [overflows, kind, decide_true, Bool.true_and] at within
      cases answer with
      | failed applied reason => simp [performMemory] at performed
      | ok done =>
          cases performed
          rw [MemoryCacheService.get?_set_of_ne within other, found]
  | setIfNotExist key value ttl =>
      have other : getFullKey backend.options key ≠ fullKey := of_decide_eq_false untouched
      have within := room
      simp only [overflows, kind, decide_true, Bool.true_and] at within
      cases answer with
      | failed applied reason => simp [performMemory] at performed
      | ok won =>
          simp only [performMemory] at performed
          obtain ⟨-, agreed⟩ := Option.ite_none_right_eq_some.mp performed
          cases agreed
          rcases MemoryCacheService.setIfNotExist_cases key value ttl with lost | claimed
          · rw [lost]
            exact found
          · rw [claimed]
            exact (MemoryCacheService.get?_set_of_ne within other).trans found
  | delete key =>
      have other : getFullKey backend.options key ≠ fullKey := of_decide_eq_false untouched
      cases answer with
      | failed applied reason => simp [performMemory] at performed
      | ok done =>
          cases performed
          rw [MemoryCacheService.delete, OrderedMap.get?_erase, if_neg other.symm, found]
  | ttl key =>
      cases answer with
      | failed applied reason => simp [performMemory] at performed
      | ok seconds =>
          simp only [performMemory] at performed
          obtain ⟨-, agreed⟩ := Option.ite_none_right_eq_some.mp performed
          cases agreed
          exact found
  | deleteByPattern pattern =>
      have spared : MemoryCacheService.selects backend.options pattern fullKey = false := by
        simpa [touches, selects, kind] using untouched
      cases answer with
      | failed applied reason => simp [performMemory] at performed
      | ok count =>
          simp only [performMemory] at performed
          obtain ⟨-, agreed⟩ := Option.ite_none_right_eq_some.mp performed
          cases agreed
          simp only [MemoryCacheService.deleteByPattern]
          rw [OrderedMap.get?_eraseWhere, spared]
          exact found
  | keys pattern => simp [performMemory] at performed
  | del fullKeys => simp [performMemory] at performed

theorem retained_redis {command : CacheCommand} {answer : command.Answer}
    (performed : backend.performRedis now cache command answer = some after)
    (untouched : backend.touches fullKey command = false)
    (found : cache.get? fullKey = some entry) : after.get? fullKey = some entry := by
  cases command with
  | get key =>
      cases answer with
      | ok value =>
          simp only [performRedis] at performed
          obtain ⟨-, agreed⟩ := Option.ite_none_right_eq_some.mp performed
          cases agreed
          exact found
      | failed applied reason =>
          cases performed
          exact found
  | set key value ttl =>
      have other : getFullKey backend.options key ≠ fullKey := of_decide_eq_false untouched
      cases answer with
      | ok done => exact (RedisCacheService.get?_set_of_ne performed other).trans found
      | failed applied reason =>
          cases applied with
          | true => exact (RedisCacheService.get?_set_of_ne performed other).trans found
          | false =>
              cases performed
              exact found
  | setIfNotExist key value ttl =>
      have other : getFullKey backend.options key ≠ fullKey := of_decide_eq_false untouched
      cases answer with
      | ok won =>
          obtain ⟨claimed, written, same⟩ := Option.bind_eq_some_iff.mp performed
          obtain ⟨-, agreed⟩ := Option.ite_none_right_eq_some.mp same
          cases agreed
          exact (RedisCacheService.get?_setIfNotExist_of_ne written other).trans found
      | failed applied reason =>
          cases applied with
          | true =>
              obtain ⟨claimed, written, rfl⟩ := Option.map_eq_some_iff.mp performed
              exact (RedisCacheService.get?_setIfNotExist_of_ne written other).trans found
          | false =>
              cases performed
              exact found
  | delete key =>
      have other : getFullKey backend.options key ≠ fullKey := of_decide_eq_false untouched
      have spared : (RedisCacheService.delete backend.options key cache).get? fullKey =
          some entry := by
        rw [RedisCacheService.delete, OrderedMap.get?_erase, if_neg other.symm, found]
      cases answer with
      | ok done =>
          cases performed
          exact spared
      | failed applied reason =>
          cases applied with
          | true =>
              cases performed
              exact spared
          | false =>
              cases performed
              exact found
  | ttl key =>
      cases answer with
      | ok seconds =>
          simp only [performRedis] at performed
          obtain ⟨-, agreed⟩ := Option.ite_none_right_eq_some.mp performed
          cases agreed
          exact found
      | failed applied reason =>
          cases performed
          exact found
  | deleteByPattern pattern => simp [performRedis] at performed
  | keys pattern =>
      cases answer with
      | ok listed =>
          simp only [performRedis] at performed
          obtain ⟨-, agreed⟩ := Option.ite_none_right_eq_some.mp performed
          cases agreed
          exact found
      | failed applied reason =>
          cases performed
          exact found
  | del fullKeys =>
      have spared : (RedisCacheService.del fullKeys cache).get? fullKey = some entry := by
        rw [RedisCacheService.del, OrderedMap.get?_eraseWhere, if_neg, found]
        rw [show fullKeys.contains fullKey = false from untouched]
        exact Bool.false_ne_true
      cases answer with
      | ok done =>
          cases performed
          exact spared
      | failed applied reason =>
          cases applied with
          | true =>
              cases performed
              exact spared
          | false =>
              cases performed
              exact found

/-- An entry that a command does not touch stays, as long as nothing overflows. -/
theorem retained {command : CacheCommand} {answer : command.Answer}
    (room : backend.overflows cache command = false)
    (performed : backend.perform now cache command answer = some after)
    (untouched : backend.touches fullKey command = false)
    (found : cache.get? fullKey = some entry) (fresh : entry.expired now = false) :
    after.get? fullKey = some entry := by
  unfold perform at performed
  cases kind : backend.kind with
  | memory =>
      rw [kind] at performed
      exact retained_memory kind room performed untouched found fresh
  | redis =>
      rw [kind] at performed
      exact retained_redis performed untouched found

end Backend

/-- A cache that works drops nothing that is live. -/
theorem retained_drop (allowed : (CacheEnvironment.working backend).drops now cache fullKey = true)
    {other : String} (found : cache.get? other = some entry) (fresh : entry.expired now = false) :
    (cache.erase fullKey).get? other = some entry := by
  rw [OrderedMap.get?_erase]
  split
  · rename_i same
    rw [← same] at allowed
    simp [CacheEnvironment.working, found, fresh] at allowed
  · exact found

/-- What a cache that works answers is a success, and there was room for it. -/
theorem working_answers {command : CacheCommand} {answer : command.Answer}
    (allowed : (CacheEnvironment.working backend).answers now cache command answer = true) :
    command.succeeds answer = true ∧ backend.overflows cache command = false := by
  simpa [CacheEnvironment.working] using allowed

/-! ### The last touch of a key -/

/-- A claim that failed although it may have taken effect. -/
def CacheCommand.unclear : (command : CacheCommand) → command.Answer → Bool
  | .setIfNotExist _ _ _, .failed applied _ => applied
  | _, _ => false

namespace Backend

/-- How an answered command treated a key: what it wrote there, or `none` where it
deleted. -/
def touch (backend : Backend) (fullKey : String) (now : Nat) :
    (command : CacheCommand) → command.Answer → Option (Option CacheEntry)
  | .set key value ttl, reply =>
      if reply.applied ∧ getFullKey backend.options key = fullKey then
        some (some (backend.entryOf now value ttl))
      else none
  | .setIfNotExist key value ttl, reply =>
      if reply = .ok true ∧ getFullKey backend.options key = fullKey then
        some (some (backend.entryOf now value ttl))
      else none
  | .delete key, reply =>
      if reply.applied ∧ getFullKey backend.options key = fullKey then some none else none
  | .deleteByPattern pattern, reply =>
      if reply.applied ∧ backend.selects pattern fullKey then some none else none
  | .del fullKeys, reply =>
      if reply.applied ∧ fullKeys.contains fullKey then some none else none
  | _, _ => none

/-- A write leaves its entry. -/
theorem get?_of_set {key : String} {value : JsValue} {ttl : Option Nat} {reply : Reply Unit}
    (performed : backend.perform now cache (.set key value ttl) reply = some after)
    (applied : reply.applied = true) :
    after.get? (getFullKey backend.options key) = some (backend.entryOf now value ttl) := by
  unfold perform at performed
  cases kind : backend.kind with
  | memory =>
      rw [entryOf_memory kind]
      cases reply with
      | failed applied reason => simp [kind, performMemory] at performed
      | ok done =>
          simp only [kind, performMemory] at performed
          cases performed
          simp [MemoryCacheService.set]
  | redis =>
      have written : RedisCacheService.set backend.options now key value ttl cache = some after := by
        cases reply with
        | ok done => simpa only [kind, performRedis] using performed
        | failed applied_ reason =>
            cases applied_ with
            | true => simpa [kind, performRedis] using performed
            | false => cases applied
      rw [entryOf_redis kind]
      unfold RedisCacheService.set at written
      split at written
      · cases written
      · cases written
        rw [OrderedMap.get?_set_self]

theorem get?_of_claim {key : String} {value : JsValue} {ttl : Option Nat}
    (performed : backend.perform now cache (.setIfNotExist key value ttl) (.ok true) = some after) :
    after.get? (getFullKey backend.options key) = some (backend.entryOf now value ttl) := by
  unfold perform at performed
  cases kind : backend.kind with
  | memory =>
      rw [entryOf_memory kind]
      simp only [kind, performMemory] at performed
      obtain ⟨won, agreed⟩ := Option.ite_none_right_eq_some.mp performed
      cases agreed
      rcases MemoryCacheService.setIfNotExist_cases key value ttl with lost | claimed
      · rw [lost] at won
        cases won
      · rw [claimed]
        simp [MemoryCacheService.set]
  | redis =>
      rw [entryOf_redis kind]
      simp only [kind, performRedis] at performed
      obtain ⟨claimed, served, met⟩ := Option.bind_eq_some_iff.mp performed
      obtain ⟨won, agreed⟩ := Option.ite_none_right_eq_some.mp met
      cases agreed
      unfold RedisCacheService.setIfNotExist at served
      simp only at served
      split at served
      · cases served
      · rename_i accepted
        split at served
        · cases served
          cases won
        · cases served
          rw [OrderedMap.get?_set_self, if_pos]
          exact Nat.pos_of_ne_zero fun zero => accepted (Or.inr zero)

theorem get?_of_delete {key : String} {reply : Reply Unit}
    (performed : backend.perform now cache (.delete key) reply = some after)
    (applied : reply.applied = true) : after.get? (getFullKey backend.options key) = none := by
  unfold perform at performed
  cases kind : backend.kind with
  | memory =>
      cases reply with
      | failed applied reason => simp [kind, performMemory] at performed
      | ok done =>
          simp only [kind, performMemory] at performed
          cases performed
          rw [MemoryCacheService.delete, OrderedMap.get?_erase, if_pos rfl]
  | redis =>
      have deleted : RedisCacheService.delete backend.options key cache = after := by
        cases reply with
        | ok done => simpa only [kind, performRedis, Option.some.injEq] using performed
        | failed applied_ reason =>
            cases applied_ with
            | true => simpa [kind, performRedis] using performed
            | false => cases applied
      rw [← deleted, RedisCacheService.delete, OrderedMap.get?_erase, if_pos rfl]

/-- A listing names what its pattern selects. -/
theorem selected_of_keys {pattern fullKey : String} {fullKeys : List String}
    (performed : backend.perform now cache (.keys pattern) (.ok fullKeys) = some after)
    (member : fullKey ∈ fullKeys) : backend.selects pattern fullKey = true := by
  unfold perform at performed
  unfold selects
  cases kind : backend.kind with
  | memory => simp [kind, performMemory] at performed
  | redis =>
      simp only [kind, performRedis] at performed
      rw [(Option.ite_none_right_eq_some.mp performed).1, RedisCacheService.keys,
        List.mem_filter] at member
      exact (Bool.and_eq_true_iff.mp member.2).2

/-- A lookup reads the entry of its key, unless it has expired. -/
theorem value_of_get {key : String} {value : JsValue}
    (performed : backend.perform now cache (.get key) (.ok value) = some after) :
    value = (((cache.get? (getFullKey backend.options key)).filter
      fun entry => !entry.expired now).map CacheEntry.value).getD .null := by
  unfold perform at performed
  cases kind : backend.kind with
  | redis =>
      simp only [kind, performRedis] at performed
      exact (Option.ite_none_right_eq_some.mp performed).1
  | memory =>
      simp only [kind, performMemory] at performed
      rw [(Option.ite_none_right_eq_some.mp performed).1]
      cases found : cache.get? (getFullKey backend.options key) with
      | none =>
          rw [MemoryCacheService.get_of_missing found]
          rfl
      | some entry =>
          cases gone : entry.expired now with
          | true =>
              rw [MemoryCacheService.get_of_expired found gone, Option.filter_some, gone]
              rfl
          | false =>
              rw [MemoryCacheService.get_of_live found gone, Option.filter_some, gone]
              rfl

/-- A lost claim changes nothing. -/
theorem eq_of_lost {key : String} {value : JsValue} {ttl : Option Nat}
    (performed : backend.perform now cache (.setIfNotExist key value ttl) (.ok false) = some after) :
    after = cache := by
  unfold perform at performed
  cases kind : backend.kind with
  | memory =>
      simp only [kind, performMemory] at performed
      obtain ⟨lost, agreed⟩ := Option.ite_none_right_eq_some.mp performed
      cases agreed
      rcases MemoryCacheService.setIfNotExist_cases key value ttl with same | same
      · rw [same]
      · rw [same] at lost
        cases lost
  | redis =>
      simp only [kind, performRedis] at performed
      obtain ⟨claimed, served, met⟩ := Option.bind_eq_some_iff.mp performed
      obtain ⟨lost, agreed⟩ := Option.ite_none_right_eq_some.mp met
      cases agreed
      unfold RedisCacheService.setIfNotExist at served
      simp only at served
      split at served
      · cases served
      · split at served
        · cases served
          rfl
        · cases served
          cases lost

/-- A claim is lost only to an entry that is still alive. -/
theorem found_of_lost {key : String} {value : JsValue} {ttl : Option Nat}
    (performed : backend.perform now cache (.setIfNotExist key value ttl) (.ok false) = some after) :
    ∃ entry, cache.get? (getFullKey backend.options key) = some entry ∧
      entry.expired now = false := by
  unfold perform at performed
  cases kind : backend.kind with
  | memory =>
      simp only [kind, performMemory] at performed
      obtain ⟨lost, -⟩ := Option.ite_none_right_eq_some.mp performed
      unfold MemoryCacheService.setIfNotExist at lost
      split at lost
      · rename_i entry found
        split at lost
        · rename_i alive
          refine ⟨entry, found, ?_⟩
          cases due : entry.expiry with
          | none => rw [CacheEntry.expired, due, Option.any_none]
          | some expiry =>
              rw [due, Option.all_some, decide_eq_true_eq] at alive
              rw [CacheEntry.expired, due, Option.any_some, decide_eq_false_iff_not]
              omega
        · cases lost
      · cases lost
  | redis =>
      simp only [kind, performRedis] at performed
      obtain ⟨claimed, served, met⟩ := Option.bind_eq_some_iff.mp performed
      obtain ⟨lost, -⟩ := Option.ite_none_right_eq_some.mp met
      unfold RedisCacheService.setIfNotExist at served
      simp only at served
      split at served
      · cases served
      · split at served
        · rename_i alive
          obtain ⟨entry, living⟩ := Option.isSome_iff_exists.mp alive
          obtain ⟨found, fresh⟩ := Option.filter_eq_some_iff.mp living
          exact ⟨entry, found, by simpa using fresh⟩
        · cases served
          cases lost

theorem applied_of_isOk {α : Type} {reply : Reply α} (ok : reply.isOk = true) :
    reply.applied = true := by
  cases reply with
  | ok value => rfl
  | failed applied reason => cases ok

/-- The command may have claimed the key unseen. -/
def blurs (backend : Backend) (fullKey : String) (command : CacheCommand)
    (answer : command.Answer) : Bool :=
  command.unclear answer &&
    command.write?.any fun write => getFullKey backend.options write.1 = fullKey

/-- Whatever is found under a key is what the command left there, or what it found there
itself. -/
theorem touched_of_perform {command : CacheCommand} {answer : command.Answer}
    (performed : backend.perform now cache command answer = some after)
    (clear : backend.blurs fullKey command answer = false) (found : after.get? fullKey = some entry) :
    (backend.touch fullKey now command answer).getD (cache.get? fullKey) = some entry := by
  rcases wrote_of_perform performed found with kept | ⟨key, value, ttl, wrote, same, rfl⟩
  · cases command with
    | set key value ttl =>
        simp only [touch]
        split
        · rename_i touched
          rw [← touched.2, get?_of_set performed touched.1] at found
          exact found
        · exact kept
    | setIfNotExist key value ttl =>
        simp only [touch]
        split
        · rename_i touched
          obtain ⟨rfl, same⟩ := touched
          rw [← same, get?_of_claim performed] at found
          exact found
        · exact kept
    | delete key =>
        simp only [touch]
        split
        · rename_i touched
          rw [← touched.2, get?_of_delete performed touched.1] at found
          cases found
        · exact kept
    | deleteByPattern pattern =>
        simp only [touch]
        split
        · rename_i touched
          rw [unselected_of_deleteByPattern performed found] at touched
          cases touched.2
        · exact kept
    | del fullKeys =>
        simp only [touch]
        split
        · rename_i touched
          have gone := not_mem_of_del performed touched.1 found
          exact absurd (List.contains_iff_mem.mp touched.2) gone
        · exact kept
    | get key => exact kept
    | ttl key => exact kept
    | keys pattern => exact kept
  · cases wrote with
    | set _ _ _ _ applied => simp [touch, applied, same]
    | claimed => simp [touch, same]
    | unclear reason => simp [blurs, CacheCommand.unclear, CacheCommand.write?, same] at clear

/-- A cache that works keeps what was left under a key until it expires. -/
theorem kept_of_perform {command : CacheCommand} {answer : command.Answer}
    (allowed : (CacheEnvironment.working backend).answers now cache command answer = true)
    (performed : backend.perform now cache command answer = some after)
    (held : (backend.touch fullKey now command answer).getD (cache.get? fullKey) = some entry)
    (fresh : entry.expired now = false) : after.get? fullKey = some entry := by
  obtain ⟨succeeds, room⟩ := working_answers allowed
  cases command with
  | set key value ttl =>
      simp only [touch] at held
      split at held
      · rename_i touched
        rw [← touched.2, get?_of_set performed touched.1]
        exact held
      · rename_i untouched
        apply retained room performed _ held fresh
        exact decide_eq_false fun same => untouched ⟨applied_of_isOk succeeds, same⟩
  | setIfNotExist key value ttl =>
      simp only [touch] at held
      split at held
      · rename_i touched
        obtain ⟨rfl, same⟩ := touched
        rw [← same, get?_of_claim performed]
        exact held
      · rename_i untouched
        by_cases same : getFullKey backend.options key = fullKey
        · cases answer with
          | failed applied reason => cases succeeds
          | ok won =>
              cases won with
              | true => exact absurd ⟨rfl, same⟩ untouched
              | false =>
                  rw [eq_of_lost performed]
                  exact held
        · exact retained room performed (decide_eq_false same) held fresh
  | delete key =>
      simp only [touch] at held
      split at held
      · cases held
      · rename_i untouched
        apply retained room performed _ held fresh
        exact decide_eq_false fun same => untouched ⟨applied_of_isOk succeeds, same⟩
  | deleteByPattern pattern =>
      simp only [touch] at held
      split at held
      · cases held
      · rename_i untouched
        apply retained room performed _ held fresh
        exact Bool.eq_false_iff.mpr fun same => untouched ⟨applied_of_isOk succeeds, same⟩
  | del fullKeys =>
      simp only [touch] at held
      split at held
      · cases held
      · rename_i untouched
        apply retained room performed _ held fresh
        exact Bool.eq_false_iff.mpr fun same => untouched ⟨applied_of_isOk succeeds, same⟩
  | get key => exact retained room performed rfl held fresh
  | ttl key => exact retained room performed rfl held fresh
  | keys pattern => exact retained room performed rfl held fresh

end Backend

end SelfService
