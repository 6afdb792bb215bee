/-
What the lockout counts.

`lockouts` reads the calls of the limiter as failures and clearings of three
families of meters.  The limiter keeps each meter in two entries of the cache,
and over a cache that works it answers what the meters say.
-/

import Mathlib.Algebra.Order.Ring.Rat
import Mathlib.Data.Nat.Cast.Order.Ring
import SelfService.Binding.BindingSafety
import SelfService.Binding.MockCustomerServiceClient
import SelfService.Data.FailureWindows
import SelfService.Port.WorkingCache
import SelfService.Security.WebhookSignature

namespace SelfService

open Data EventLoop BindingRateLimiter

/-- The meters: of a user on a reference, of a reference, and of a user. -/
inductive LockoutKey : Type
  | userRef (userId customerRef : String)
  | customer (customerRef : String)
  | userTotal (userId : String)
  deriving DecidableEq

namespace LockoutKey

def ceiling : LockoutKey → Ceiling
  | .userRef userId customerRef => userRefCeiling userId customerRef
  | .customer customerRef => customerCeiling customerRef
  | .userTotal userId => userTotalCeiling userId

def rule (key : LockoutKey) : LockRule where
  limit := key.ceiling.limit
  window := key.ceiling.windowSec * 1000
  lock := key.ceiling.lockSec * 1000

/-- The user id, if any, is free of the separator of the cache keys. -/
def Plain : LockoutKey → Prop
  | .userRef userId _ | .userTotal userId => ':' ∉ userId.toList
  | .customer _ => True

/-! ### Keys -/

theorem isCeiling (key : LockoutKey) : IsCeiling key.ceiling := by
  cases key with
  | userRef userId customerRef => exact .userRef userId customerRef
  | customer customerRef => exact .customer customerRef
  | userTotal userId => exact .userTotal userId

theorem failKey_ne_lockKey (key other : LockoutKey) :
    key.ceiling.failKey ≠ other.ceiling.lockKey :=
  ne_of_family key.isCeiling.family_failKey other.isCeiling.family_lockKey (by decide)

/-- What stands behind `bind:fail:` and behind `bind:lock:`. -/
def tail : LockoutKey → String
  | .userRef userId customerRef => "user:" ++ (userId ++ (":" ++ customerRef))
  | .customer customerRef => "cust:" ++ customerRef
  | .userTotal userId => "user_total:" ++ userId

theorem failKey_eq (key : LockoutKey) : key.ceiling.failKey = "bind:fail:" ++ key.tail := by
  cases key with
  | userRef userId customerRef =>
      change "bind:fail:user:" ++ userId ++ ":" ++ customerRef = _
      rw [show "bind:fail:user:" = "bind:fail:" ++ "user:" from rfl, String.append_assoc,
        String.append_assoc, String.append_assoc]
      rfl
  | customer customerRef =>
      change "bind:fail:cust:" ++ customerRef = _
      rw [show "bind:fail:cust:" = "bind:fail:" ++ "cust:" from rfl, String.append_assoc]
      rfl
  | userTotal userId =>
      change "bind:fail:user_total:" ++ userId = _
      rw [show "bind:fail:user_total:" = "bind:fail:" ++ "user_total:" from rfl,
        String.append_assoc]
      rfl

theorem lockKey_eq (key : LockoutKey) : key.ceiling.lockKey = "bind:lock:" ++ key.tail := by
  cases key with
  | userRef userId customerRef =>
      change "bind:lock:user:" ++ userId ++ ":" ++ customerRef = _
      rw [show "bind:lock:user:" = "bind:lock:" ++ "user:" from rfl, String.append_assoc,
        String.append_assoc, String.append_assoc]
      rfl
  | customer customerRef =>
      change "bind:lock:cust:" ++ customerRef = _
      rw [show "bind:lock:cust:" = "bind:lock:" ++ "cust:" from rfl, String.append_assoc]
      rfl
  | userTotal userId =>
      change "bind:lock:user_total:" ++ userId = _
      rw [show "bind:lock:user_total:" = "bind:lock:" ++ "user_total:" from rfl,
        String.append_assoc]
      rfl

theorem ne_of_symbol {left right leftRest rightRest : String} (place : Nat) {symbol other : Char}
    (first : left.toList[place]? = some symbol) (second : right.toList[place]? = some other)
    (different : symbol ≠ other) : left ++ leftRest ≠ right ++ rightRest := by
  intro same
  have symbols := congrArg (fun text => text.toList[place]?) same
  simp only [String.toList_append] at symbols
  rw [List.getElem?_append_left (List.getElem?_eq_some_iff.mp first).1,
    List.getElem?_append_left (List.getElem?_eq_some_iff.mp second).1, first, second] at symbols
  exact different (Option.some.inj symbols)

theorem tail_injective {key other : LockoutKey} (plain : key.Plain) (alsoPlain : other.Plain)
    (same : key.tail = other.tail) : key = other := by
  cases key with
  | userRef userId customerRef =>
      cases other with
      | userRef otherId otherRef =>
          have symbols := congrArg String.toList ((String.append_right_inj _).mp same)
          rw [String.toList_append, String.toList_append, String.toList_append,
            String.toList_append] at symbols
          obtain ⟨users, refs⟩ := HmacSign.fields_of_append _ _ plain alsoPlain symbols
          rw [String.toList_injective users, String.toList_injective refs]
      | customer otherRef => exact absurd same (ne_of_symbol 0 rfl rfl (by decide))
      | userTotal otherId => exact absurd same (ne_of_symbol 4 rfl rfl (by decide))
  | customer customerRef =>
      cases other with
      | userRef otherId otherRef => exact absurd same (ne_of_symbol 0 rfl rfl (by decide))
      | customer otherRef => rw [(String.append_right_inj _).mp same]
      | userTotal otherId => exact absurd same (ne_of_symbol 0 rfl rfl (by decide))
  | userTotal userId =>
      cases other with
      | userRef otherId otherRef => exact absurd same (ne_of_symbol 4 rfl rfl (by decide))
      | customer otherRef => exact absurd same (ne_of_symbol 0 rfl rfl (by decide))
      | userTotal otherId => rw [(String.append_right_inj _).mp same]

variable (key other : LockoutKey)

theorem failKey_ne (plain : key.Plain) (alsoPlain : other.Plain) (different : key ≠ other) :
    key.ceiling.failKey ≠ other.ceiling.failKey := by
  rw [failKey_eq, failKey_eq]
  exact fun same => different (tail_injective plain alsoPlain ((String.append_right_inj _).mp same))

theorem lockKey_ne (plain : key.Plain) (alsoPlain : other.Plain) (different : key ≠ other) :
    key.ceiling.lockKey ≠ other.ceiling.lockKey := by
  rw [lockKey_eq, lockKey_eq]
  exact fun same => different (tail_injective plain alsoPlain ((String.append_right_inj _).mp same))

theorem windowSec_pos (key : LockoutKey) : 0 < key.ceiling.windowSec := by
  cases key with
  | userRef userId customerRef => exact (by decide : 0 < USER_REF_WINDOW_SEC)
  | customer customerRef => exact (by decide : 0 < CUSTOMER_REF_WINDOW_SEC)
  | userTotal userId => exact (by decide : 0 < USER_TOTAL_WINDOW_SEC)

theorem lockSec_pos (key : LockoutKey) : 0 < key.ceiling.lockSec := by
  cases key with
  | userRef userId customerRef => exact (by decide : 0 < USER_REF_WINDOW_SEC)
  | customer customerRef => exact (by decide : 0 < CUSTOMER_REF_LOCK_SEC)
  | userTotal userId => exact (by decide : 0 < USER_TOTAL_LOCK_SEC)

end LockoutKey

/-! ### Meters in the cache -/

def windowEntry (window : FailureWindow) : JsValue :=
  counter (.num window.count) (.num window.since)

theorem running_windowEntry (now windowSec : Nat) (window : FailureWindow) :
    running now windowSec (windowEntry window) =
      decide (now < window.since + windowSec * 1000) := by
  change decide ((now : Rat) - window.since < ((windowSec * 1000 : Nat) : Rat)) = _
  rw [decide_eq_decide, sub_lt_iff_lt_add', ← Nat.cast_add, Nat.cast_lt]

theorem reaches_num (limit count : Nat) :
    reaches limit (.num count) = decide (limit ≤ count) := by
  change decide ((limit : Rat) ≤ count) = _
  rw [decide_eq_decide, Nat.cast_le]

/-- The two entries of a meter.  A window that has elapsed may be there still; one that is
running is there, and so is a lock that holds. -/
structure HoldsMeter (now : Nat) (found : String → Option CacheEntry) (key : LockoutKey)
    (meter : Meter) : Prop where
  lock : found key.ceiling.lockKey =
    (meter.lockedThrough.filter fun last => decide (now ≤ last)).map
      fun last => ⟨.num 1, some last⟩
  counted : ∀ entry, found key.ceiling.failKey = some entry →
    ∃ window, meter.window = some window ∧ entry.value = windowEntry window
  kept : ∀ window, meter.window = some window → now < window.since + key.rule.window →
    ∃ entry, found key.ceiling.failKey = some entry ∧
      ∀ last, entry.expiry = some last → window.since + key.rule.window ≤ last
  began : ∀ window, meter.window = some window → window.since ≤ now

variable {now moment : Nat} {found after : String → Option CacheEntry} {key : LockoutKey}
  {meter : Meter} {ledger : LockoutKey → Meter}

theorem HoldsMeter.congr (held : HoldsMeter now found key meter)
    (sameLock : after key.ceiling.lockKey = found key.ceiling.lockKey)
    (sameCount : after key.ceiling.failKey = found key.ceiling.failKey) :
    HoldsMeter now after key meter := by
  obtain ⟨lock, counted, kept, began⟩ := held
  rw [← sameLock] at lock
  simp only [← sameCount] at counted kept
  exact ⟨lock, counted, kept, began⟩

/-- Time only takes away what has expired. -/
theorem HoldsMeter.later (held : HoldsMeter now found key meter) (order : now ≤ moment)
    (expires : ∀ name, after name = (found name).filter fun entry => !entry.expired moment) :
    HoldsMeter moment after key meter := by
  refine ⟨?_, ?_, ?_, ?_⟩
  · rw [expires, held.lock]
    cases meter.lockedThrough with
    | none => rfl
    | some last =>
        by_cases holds : moment ≤ last
        · have earlier : now ≤ last := Nat.le_trans order holds
          simp [Option.filter, holds, earlier, CacheEntry.expired]
        · by_cases earlier : now ≤ last
          · simp [Option.filter, holds, earlier, CacheEntry.expired, Nat.lt_of_not_le holds]
          · simp [Option.filter, holds, earlier]
  · intro entry there
    rw [expires] at there
    exact held.counted entry (Option.filter_eq_some_iff.mp there).1
  · intro window counted running
    obtain ⟨entry, there, lasts⟩ := held.kept window counted (by omega)
    refine ⟨entry, ?_, lasts⟩
    rw [expires, there, Option.filter_some, if_pos]
    have fresh : entry.expired moment = false := by
      unfold CacheEntry.expired
      cases due : entry.expiry with
      | none => rfl
      | some last =>
          have enough := lasts last due
          simp only [Option.any_some, decide_eq_false_iff_not]
          omega
    rw [fresh]
    rfl
  · intro window counted
    exact Nat.le_trans (held.began window counted) order

/-- What a bump writes is the window of the meter with one failure more. -/
theorem HoldsMeter.bumped_eq (held : HoldsMeter now found key meter) :
    bumped now key.ceiling.windowSec
        (((found key.ceiling.failKey).map CacheEntry.value).getD .null) =
      windowEntry (meter.counting key.rule now) := by
  cases there : found key.ceiling.failKey with
  | none =>
      have elapsed : ∀ window, meter.window = some window →
          window.since + key.rule.window ≤ now := by
        intro window counted
        apply Nat.le_of_not_lt
        intro running
        obtain ⟨entry, held, -⟩ := held.kept window counted running
        rw [there] at held
        cases held
      rw [Meter.counting_of_elapsed elapsed]
      change counter (.num 1) (.num now) = counter (.num ((1 : Nat) : Rat)) (.num now)
      rw [Nat.cast_one]
  | some entry =>
      obtain ⟨window, counted, value⟩ := held.counted entry there
      change bumped now key.ceiling.windowSec entry.value = _
      rw [value, bumped, running_windowEntry]
      by_cases within : now < window.since + key.ceiling.windowSec * 1000
      · rw [Meter.counting_of_running counted within, if_pos (decide_eq_true within)]
        change counter (.num (window.count + 1)) (.num window.since) =
          counter (.num ((window.count + 1 : Nat) : Rat)) (.num window.since)
        rw [Nat.cast_add, Nat.cast_one]
      · have elapsed : ∀ other, meter.window = some other →
            other.since + key.rule.window ≤ now := by
          intro other same
          rw [counted] at same
          cases same
          exact Nat.le_of_not_lt within
        rw [Meter.counting_of_elapsed elapsed, decide_eq_false within]
        change counter (.num 1) (.num now) = counter (.num ((1 : Nat) : Rat)) (.num now)
        rw [Nat.cast_one]

/-- The counter was written back. -/
theorem HoldsMeter.counts (held : HoldsMeter now found key meter)
    (counts : meter.arms key.rule now = false) :
    HoldsMeter now (Function.update found key.ceiling.failKey
      (some ⟨windowEntry (meter.counting key.rule now),
        some (now + key.ceiling.windowSec * 1000)⟩)) key (meter.fail key.rule now) := by
  rw [Meter.fail_of_counts counts]
  refine ⟨?_, ?_, ?_, ?_⟩
  · rw [Function.update_of_ne (LockoutKey.failKey_ne_lockKey key key).symm]
    exact held.lock
  · intro entry there
    rw [Function.update_self] at there
    cases there
    exact ⟨_, rfl, rfl⟩
  · intro window counted running
    cases counted
    refine ⟨_, Function.update_self _ _ _, ?_⟩
    intro last due
    cases due
    exact Nat.add_le_add_right (Meter.counting_since_le held.began) _
  · intro window counted
    cases counted
    exact Meter.counting_since_le held.began

/-- The lock was set and the counter deleted. -/
theorem holdsMeter_of_arms (armed : meter.arms key.rule now = true)
    (locked : after key.ceiling.lockKey =
      some ⟨.num 1, some (now + key.ceiling.lockSec * 1000)⟩)
    (deleted : after key.ceiling.failKey = none) :
    HoldsMeter now after key (meter.fail key.rule now) := by
  rw [Meter.fail_of_arms armed]
  refine ⟨?_, ?_, ?_, ?_⟩
  · rw [locked]
    simp [LockoutKey.rule]
  · intro entry there
    rw [deleted] at there
    cases there
  · intro window counted
    cases counted
  · intro window counted
    cases counted

theorem HoldsMeter.clear (held : HoldsMeter now found key meter) :
    HoldsMeter now (Function.update found key.ceiling.failKey none) key meter.clear := by
  refine ⟨?_, ?_, ?_, ?_⟩
  · rw [Function.update_of_ne (LockoutKey.failKey_ne_lockKey key key).symm]
    exact held.lock
  · intro entry there
    rw [Function.update_self] at there
    cases there
  · intro window counted
    cases counted
  · intro window counted
    cases counted

/-- Every meter of a ledger is in the cache. -/
def HoldsLedger (now : Nat) (found : String → Option CacheEntry)
    (ledger : LockoutKey → Meter) : Prop :=
  ∀ key : LockoutKey, key.Plain → HoldsMeter now found key (ledger key)

/-- Only the entries of one meter were touched. -/
theorem HoldsLedger.update (all : HoldsLedger now found ledger) (plain : key.Plain)
    (elsewhere : ∀ name, name ≠ key.ceiling.failKey → name ≠ key.ceiling.lockKey →
      after name = found name)
    (own : HoldsMeter now after key meter) :
    HoldsLedger now after (Function.update ledger key meter) := by
  intro other alsoPlain
  by_cases same : other = key
  · subst same
    rw [Function.update_self]
    exact own
  · rw [Function.update_of_ne same]
    apply (all other alsoPlain).congr
    · exact elsewhere _ (LockoutKey.failKey_ne_lockKey key other).symm
        (LockoutKey.lockKey_ne other key alsoPlain plain same)
    · exact elsewhere _ (LockoutKey.failKey_ne other key alsoPlain plain same)
        (LockoutKey.failKey_ne_lockKey other key)

/-! ### Calls -/

inductive LimiterCall : Type
  | checkLocked (userId customerRef : String)
  | recordFailure (userId customerRef : String)
  | clearFailures (userId customerRef : String)
  deriving DecidableEq

namespace LimiterCall

def userId : LimiterCall → String
  | .checkLocked userId _ | .recordFailure userId _ | .clearFailures userId _ => userId

def task {client : CustomerServiceClient} : LimiterCall → BindingTask client Unit
  | .checkLocked userId customerRef => do
      let _ ← BindingRateLimiter.checkLocked userId customerRef
      return ()
  | .recordFailure userId customerRef => do
      let _ ← BindingRateLimiter.recordFailure userId customerRef
      return ()
  | .clearFailures userId customerRef => BindingRateLimiter.clearFailures userId customerRef

/-- A failure counts three times; a success clears what the user alone has done. -/
def events : LimiterCall → List (MeterEvent LockoutKey)
  | .checkLocked _ _ => []
  | .recordFailure userId customerRef =>
      [.fail (.userRef userId customerRef), .fail (.customer customerRef),
        .fail (.userTotal userId)]
  | .clearFailures userId customerRef =>
      [.clear (.userRef userId customerRef), .clear (.userTotal userId)]

end LimiterCall

structure LimiterEntry where
  now : Nat
  call : LimiterCall
  deriving DecidableEq

def LimiterEntry.events (timed : LimiterEntry) : List (MeterEvent LockoutKey) := timed.call.events

/-- The three families of meters after these calls. -/
def lockouts (history : List LimiterEntry) : LockoutKey → Meter :=
  replay LockoutKey.rule LimiterEntry.now LimiterEntry.events history

/-- The strongest lock that holds. -/
def lockReason (ledger : LockoutKey → Meter) (now : Nat) (userId customerRef : String) :
    Option LockReason :=
  if (ledger (.userTotal userId)).locked now then some .session
  else if (ledger (.userRef userId customerRef)).locked now then some .userRef
  else if (ledger (.customer customerRef)).locked now then some .customerRef
  else none

/-- The strongest lock that a failure arms. -/
def armedReason (ledger : LockoutKey → Meter) (now : Nat) (userId customerRef : String) :
    Option LockReason :=
  if (ledger (.userTotal userId)).arms (LockoutKey.userTotal userId).rule now then some .session
  else if (ledger (.customer customerRef)).arms (LockoutKey.customer customerRef).rule now then
    some .customerRef
  else if (ledger (.userRef userId customerRef)).arms
      (LockoutKey.userRef userId customerRef).rule now then some .userRef
  else none

theorem reason_strongest (userRefArmed customerArmed sessionArmed : Bool) :
    (strongest userRefArmed customerArmed sessionArmed).reason =
      if sessionArmed then some .session
      else if customerArmed then some .customerRef
      else if userRefArmed then some .userRef
      else none := by
  cases sessionArmed <;> cases customerArmed <;> cases userRefArmed <;> rfl

theorem lockedNow_strongest (userRefArmed customerArmed sessionArmed : Bool) :
    (strongest userRefArmed customerArmed sessionArmed).lockedNow =
      (strongest userRefArmed customerArmed sessionArmed).reason.isSome := by
  cases sessionArmed <;> cases customerArmed <;> cases userRefArmed <;> rfl

theorem lockReason_isSome {now : Nat} {userId customerRef : String} :
    (lockReason ledger now userId customerRef).isSome = true ↔
      (ledger (.userTotal userId)).locked now = true ∨
        (ledger (.userRef userId customerRef)).locked now = true ∨
          (ledger (.customer customerRef)).locked now = true := by
  unfold lockReason
  cases (ledger (.userTotal userId)).locked now <;>
    cases (ledger (.userRef userId customerRef)).locked now <;>
      cases (ledger (.customer customerRef)).locked now <;> simp

/-! ### Independence -/

/-- The meters that a user is checked by on a reference. -/
def LockoutKey.Bears (userId customerRef : String) : LockoutKey → Prop
  | .userRef otherId otherRef => otherId = userId ∧ otherRef = customerRef
  | .customer otherRef => otherRef = customerRef
  | .userTotal otherId => otherId = userId

/-- Not a failure of somebody else on something else. -/
def LimiterEntry.concerns (userId customerRef : String) (timed : LimiterEntry) : Bool :=
  match timed.call with
  | .recordFailure otherId otherRef => otherId = userId || otherRef = customerRef
  | .checkLocked _ _ | .clearFailures _ _ => true

theorem ne_key_of_foreign {userId customerRef : String} (bears : key.Bears userId customerRef)
    (timed : LimiterEntry) (foreign : timed.concerns userId customerRef = false) :
    ∀ event ∈ timed.events, key ≠ event.key := by
  obtain ⟨now, call⟩ := timed
  cases call with
  | checkLocked otherId otherRef => cases foreign
  | clearFailures otherId otherRef => cases foreign
  | recordFailure otherId otherRef =>
      simp only [LimiterEntry.concerns, Bool.or_eq_false_iff, decide_eq_false_iff_not] at foreign
      obtain ⟨otherUser, otherCustomer⟩ := foreign
      intro event member same
      subst same
      simp only [LimiterEntry.events, LimiterCall.events, List.mem_cons, List.not_mem_nil,
        or_false] at member
      rcases member with rfl | rfl | rfl
      · exact otherUser bears.1
      · exact otherCustomer bears
      · exact otherUser bears

/-- Failures of others on other references leave no trace in these meters. -/
theorem lockouts_filter (key : LockoutKey) {userId customerRef : String}
    (bears : key.Bears userId customerRef) (history : List LimiterEntry) :
    lockouts (history.filter (LimiterEntry.concerns userId customerRef)) key =
      lockouts history key :=
  replay_filter (ne_key_of_foreign bears) history

/-! ### The limiter over a cache that works -/

section Limiter

variable {client : CustomerServiceClient} {d : Deployment (binding client)}
  {service : Service (binding client)} {answers : Answering (portSignature (binding client))}
  {world : BindingWorld client}

theorem returns_bump (working : d.environment = .working d.backend)
    (held : HoldsMeter world.now (world.view d.backend) key meter) :
    Returns (portSystem d service) answers
      (bump key.ceiling.failKey key.ceiling.windowSec : BindingTask client JsValue) world
      fun count after =>
        count = .num (meter.counting key.rule world.now).count ∧
          world.Leaves d.backend (Function.update (world.view d.backend) key.ceiling.failKey
            (some ⟨windowEntry (meter.counting key.rule world.now),
              some (world.now + key.ceiling.windowSec * 1000)⟩)) after := by
  apply Returns.read
  apply Returns.note
  apply (returns_get working key.ceiling.failKey).bind
  rintro entry middle ⟨read, sameNow, sameView⟩
  subst read
  rw [held.bumped_eq]
  apply (returns_set working key.ceiling.failKey (windowEntry _) rfl key.windowSec_pos).bind
  rintro _ after ⟨now, view⟩
  rw [sameNow, sameView] at view
  exact Returns.done ⟨rfl, now.trans sameNow, view⟩

theorem returns_strike (working : d.environment = .working d.backend)
    (all : HoldsLedger world.now (world.view d.backend) ledger) (key : LockoutKey)
    (plain : key.Plain) :
    Returns (portSystem d service) answers
      (strike key.ceiling : BindingTask client Bool) world fun armed after =>
        armed = (ledger key).arms key.rule world.now ∧ after.now = world.now ∧
          HoldsLedger after.now (after.view d.backend)
            (record LockoutKey.rule world.now ledger (.fail key)) := by
  have held := all key plain
  apply (returns_bump working held).bind
  rintro count bumped_ ⟨counted, sameNow, bumpedView⟩
  subst counted
  rw [reaches_num]
  change Returns _ _ (if (ledger key).arms key.rule world.now = true then _ else _) _ _
  cases armed : (ledger key).arms key.rule world.now with
  | true =>
      apply (returns_set working key.ceiling.lockKey (.num 1) rfl key.lockSec_pos).bind
      rintro _ locked ⟨lockedNow, lockedView⟩
      apply (returns_delete working key.ceiling.failKey).bind
      rintro _ after ⟨now, view⟩
      rw [lockedView, bumpedView, sameNow] at view
      have still := now.trans (lockedNow.trans sameNow)
      refine Returns.done ⟨rfl, still, ?_⟩
      rw [view, still]
      apply all.update plain
      · intro name notCount notLock
        rw [Function.update_of_ne notCount, Function.update_of_ne notLock,
          Function.update_of_ne notCount]
      · apply holdsMeter_of_arms armed
        · rw [Function.update_of_ne (LockoutKey.failKey_ne_lockKey key key).symm,
            Function.update_self]
        · exact Function.update_self _ _ _
  | false =>
      refine Returns.done ⟨rfl, sameNow, ?_⟩
      rw [bumpedView, sameNow]
      apply all.update plain
      · intro name notCount _
        exact Function.update_of_ne notCount _ _
      · exact held.counts armed

theorem HoldsMeter.locked_iff (held : HoldsMeter now found key meter) :
    (((found key.ceiling.lockKey).map CacheEntry.value).getD .null).truthy =
      meter.locked now := by
  rw [held.lock, Meter.locked]
  cases meter.lockedThrough with
  | none => rfl
  | some last =>
      by_cases holds : now ≤ last
      · simp [Option.filter, holds, JsValue.truthy]
      · simp [Option.filter, holds, JsValue.truthy]

/-- One lock is looked up: it holds, or the next one is looked up in the same cache. -/
theorem returns_checkLock (working : d.environment = .working d.backend)
    (held : HoldsMeter world.now (world.view d.backend) key meter) {reason : LockReason}
    {otherwise : BindingTask client LockState} {post : LockState → BindingWorld client → Prop}
    (holds : meter.locked world.now = true → ∀ seconds after,
      world.Leaves d.backend (world.view d.backend) after →
        post ⟨true, some reason, some seconds⟩ after)
    (next : meter.locked world.now = false → ∀ after,
      world.Leaves d.backend (world.view d.backend) after →
        Returns (portSystem d service) answers otherwise after post) :
    Returns (portSystem d service) answers (checkLock key.ceiling.lockKey reason otherwise) world
      post := by
  apply (returns_get working key.ceiling.lockKey).bind
  rintro entry middle ⟨rfl, sameNow, sameView⟩
  rw [held.locked_iff]
  cases locked : meter.locked world.now with
  | true =>
      have asked : Returns (portSystem d service) answers
          (ttlSec key.ceiling.lockKey : BindingTask client Nat) middle fun _ after =>
            middle.Leaves d.backend (middle.view d.backend) after :=
        (returns_ttl working key.ceiling.lockKey).bind fun _ after leaves => Returns.done leaves
      apply asked.bind
      rintro seconds after ⟨now, view⟩
      exact Returns.done (holds locked seconds after ⟨now.trans sameNow, view.trans sameView⟩)
  | false => exact next locked middle ⟨sameNow, sameView⟩

theorem HoldsLedger.leaves {after : BindingWorld client} {found : String → Option CacheEntry}
    (all : HoldsLedger world.now found ledger)
    (leaves : world.Leaves d.backend found after) :
    HoldsLedger after.now (after.view d.backend) ledger := by
  obtain ⟨now, view⟩ := leaves
  rw [now, view]
  exact all

theorem returns_checkLocked (working : d.environment = .working d.backend)
    (all : HoldsLedger world.now (world.view d.backend) ledger) {userId : String}
    (plain : ':' ∉ userId.toList) (customerRef : String) :
    Returns (portSystem d service) answers
      (checkLocked userId customerRef : BindingTask client LockState) world fun state after =>
        (state.reason = lockReason ledger world.now userId customerRef ∧
          state.locked = state.reason.isSome) ∧
            world.Leaves d.backend (world.view d.backend) after := by
  apply returns_checkLock working (all (.userTotal userId) plain)
  · intro locked seconds after leaves
    rw [lockReason, if_pos locked]
    exact ⟨⟨rfl, rfl⟩, leaves⟩
  · intro total second firstLeaves
    have secondAll := all.leaves firstLeaves
    apply returns_checkLock working (secondAll (.userRef userId customerRef) plain)
    · intro locked seconds after leaves
      rw [firstLeaves.now] at locked
      rw [lockReason, if_neg (Bool.eq_false_iff.mp total), if_pos locked]
      exact ⟨⟨rfl, rfl⟩, firstLeaves.trans leaves⟩
    · intro userRef third secondLeaves
      have thirdLeaves := firstLeaves.trans secondLeaves
      rw [firstLeaves.now] at userRef
      apply returns_checkLock working (all.leaves thirdLeaves (.customer customerRef) trivial)
      · intro locked seconds after leaves
        rw [thirdLeaves.now] at locked
        rw [lockReason, if_neg (Bool.eq_false_iff.mp total), if_neg (Bool.eq_false_iff.mp userRef),
          if_pos locked]
        exact ⟨⟨rfl, rfl⟩, thirdLeaves.trans leaves⟩
      · intro customer after leaves
        rw [thirdLeaves.now] at customer
        apply Returns.done
        rw [lockReason, if_neg (Bool.eq_false_iff.mp total), if_neg (Bool.eq_false_iff.mp userRef),
          if_neg (Bool.eq_false_iff.mp customer)]
        exact ⟨⟨rfl, rfl⟩, thirdLeaves.trans leaves⟩

theorem returns_recordFailure (working : d.environment = .working d.backend)
    (all : HoldsLedger world.now (world.view d.backend) ledger) {userId : String}
    (plain : ':' ∉ userId.toList) (customerRef : String) :
    Returns (portSystem d service) answers
      (recordFailure userId customerRef : BindingTask client FailureOutcome) world
      fun outcome after =>
        (outcome.reason = armedReason ledger world.now userId customerRef ∧
          outcome.lockedNow = outcome.reason.isSome) ∧ after.now = world.now ∧
          HoldsLedger after.now (after.view d.backend) (recordAll LockoutKey.rule world.now ledger
            (LimiterCall.recordFailure userId customerRef).events) := by
  apply (returns_strike working all (.userRef userId customerRef) plain).bind
  rintro _ first ⟨rfl, firstNow, firstAll⟩
  apply (returns_strike working firstAll (.customer customerRef) trivial).bind
  rintro _ second ⟨rfl, secondNow, secondAll⟩
  apply (returns_strike working secondAll (.userTotal userId) plain).bind
  rintro _ third ⟨rfl, thirdNow, thirdAll⟩
  rw [firstNow] at secondNow secondAll
  rw [secondNow, firstNow] at thirdAll
  refine Returns.done ⟨⟨?_, lockedNow_strongest _ _ _⟩, thirdNow.trans secondNow, thirdAll⟩
  rw [reason_strongest, firstNow, secondNow, record_of_ne (by intro same; cases same),
    record_of_ne (by intro same; cases same), record_of_ne (by intro same; cases same)]
  rfl

theorem HoldsLedger.clear (all : HoldsLedger now found ledger) (key : LockoutKey)
    (plain : key.Plain) :
    HoldsLedger now (Function.update found key.ceiling.failKey none)
      (record LockoutKey.rule now ledger (.clear key)) :=
  all.update plain (fun _ notCount _ => Function.update_of_ne notCount _ _) (all key plain).clear

theorem returns_clearFailures (working : d.environment = .working d.backend)
    (userId customerRef : String) :
    Returns (portSystem d service) answers
      (clearFailures userId customerRef : BindingTask client Unit) world fun _ after =>
        world.Leaves d.backend (Function.update
          (Function.update (world.view d.backend) (userFailKey userId customerRef) none)
          (userTotalFailKey userId) none) after := by
  apply (returns_delete working (userFailKey userId customerRef)).bind
  rintro _ middle ⟨firstNow, firstView⟩
  apply (returns_delete working (userTotalFailKey userId)).mono
  rintro _ after ⟨now, view⟩
  rw [firstView] at view
  exact ⟨now.trans firstNow, view⟩

/-- One call: what it does to the cache is what it does to the meters. -/
theorem returns_task (working : d.environment = .working d.backend)
    (all : HoldsLedger world.now (world.view d.backend) ledger) (call : LimiterCall)
    (plain : ':' ∉ call.userId.toList) :
    Returns (portSystem d service) answers (call.task : BindingTask client Unit) world
      fun _ after => after.now = world.now ∧ HoldsLedger after.now (after.view d.backend)
        (recordAll LockoutKey.rule world.now ledger call.events) := by
  cases call with
  | checkLocked userId customerRef =>
      apply (returns_checkLocked working all plain customerRef).bind
      rintro state after ⟨-, leaves⟩
      exact Returns.done ⟨leaves.now, all.leaves leaves⟩
  | recordFailure userId customerRef =>
      apply (returns_recordFailure working all plain customerRef).bind
      rintro outcome after ⟨-, still, later⟩
      exact Returns.done ⟨still, later⟩
  | clearFailures userId customerRef =>
      apply (returns_clearFailures working userId customerRef).mono
      rintro _ after leaves
      refine ⟨leaves.now, HoldsLedger.leaves ?_ leaves⟩
      exact (all.clear (.userRef userId customerRef) plain).clear (.userTotal userId) plain

end Limiter

/-! ### In every sequential run -/

section Runs

variable {client : CustomerServiceClient} {aes : AesGcm} {wiring : Wiring}
  {start world : BindingWorld client} {history : List LimiterEntry}

/-- Calls one after the other, each at an instant, over a cache that works.  Between them time
passes, what has expired is dropped and the configuration is reloaded. -/
inductive LimiterRun (client : CustomerServiceClient) (aes : AesGcm) (wiring : Wiring)
    (start : BindingWorld client) : List LimiterEntry → BindingWorld client → Prop
  | start : LimiterRun client aes wiring start [] start
  | between {history : List LimiterEntry} {world after : BindingWorld client}
      (run : LimiterRun client aes wiring start history world) (event : PortExternal)
      (moved : (bindingSystem client aes wiring (.working wiring.backend)).external world event =
        some after) :
      LimiterRun client aes wiring start history after
  | call {history : List LimiterEntry} {world after : BindingWorld client}
      {answers : Answering (portSignature (binding client))} {out : Except Exn Unit}
      (run : LimiterRun client aes wiring start history world) (call : LimiterCall)
      (plain : ':' ∉ call.userId.toList)
      (ran : runAlone (bindingSystem client aes wiring (.working wiring.backend)) answers
        call.task world = some (out, after)) :
      LimiterRun client aes wiring start (history ++ [⟨world.now, call⟩]) after

/-- The limiter has left nothing in the cache. -/
def Unused (backend : Backend) (world : BindingWorld client) : Prop :=
  ∀ key : LockoutKey, world.view backend key.ceiling.failKey = none ∧
    world.view backend key.ceiling.lockKey = none

theorem holdsLedger_of_unused {backend : Backend} (unused : Unused backend world) :
    HoldsLedger world.now (world.view backend) fun _ => .unused := by
  intro key _
  obtain ⟨noCount, noLock⟩ := unused key
  refine ⟨noLock, ?_, ?_, ?_⟩
  · intro entry there
    rw [noCount] at there
    cases there
  · intro window counted
    cases counted
  · intro window counted
    cases counted

theorem LimiterRun.holds (run : LimiterRun client aes wiring start history world)
    (unused : Unused wiring.backend start) :
    HoldsLedger world.now (world.view wiring.backend) (lockouts history) := by
  induction run with
  | start => exact holdsLedger_of_unused unused
  | between run event moved ih =>
      obtain ⟨order, view⟩ := view_of_external
        (d := bindingDeployment client wiring (.working wiring.backend)) rfl moved
      exact fun key plain => (ih key plain).later order view
  | @call history world after answers out run call plain ran ih =>
      obtain ⟨_, -, -, later⟩ := returns_task
        (d := bindingDeployment client wiring (.working wiring.backend)) rfl ih call plain _ _ ran
      rw [lockouts, replay_append]
      exact later

section Answers

variable {answers : Answering (portSignature (binding client))} {userId : String}

/-- A check tells the strongest lock that holds. -/
theorem LimiterRun.checks (run : LimiterRun client aes wiring start history world)
    (unused : Unused wiring.backend start) (plain : ':' ∉ userId.toList) (customerRef : String) :
    Returns (bindingSystem client aes wiring (.working wiring.backend)) answers
      (checkLocked userId customerRef) world fun state _ =>
        state.reason = lockReason (lockouts history) world.now userId customerRef ∧
          state.locked = state.reason.isSome := by
  apply (returns_checkLocked (d := bindingDeployment client wiring (.working wiring.backend)) rfl
    (run.holds unused) plain customerRef).mono
  exact fun state after ends => ends.1

/-- A failure tells the strongest lock that it arms. -/
theorem LimiterRun.records (run : LimiterRun client aes wiring start history world)
    (unused : Unused wiring.backend start) (plain : ':' ∉ userId.toList) (customerRef : String) :
    Returns (bindingSystem client aes wiring (.working wiring.backend)) answers
      (recordFailure userId customerRef) world fun outcome _ =>
        outcome.reason = armedReason (lockouts history) world.now userId customerRef ∧
          outcome.lockedNow = outcome.reason.isSome := by
  apply (returns_recordFailure (d := bindingDeployment client wiring (.working wiring.backend)) rfl
    (run.holds unused) plain customerRef).mono
  exact fun outcome after ends => ends.1

/-- A success leaves every lock and the counters of the references alone. -/
theorem clearFailures_spares (plain : ':' ∉ userId.toList) (customerRef : String) :
    Returns (bindingSystem client aes wiring (.working wiring.backend)) answers
      (clearFailures userId customerRef) world fun _ after =>
        (∀ key : LockoutKey, after.view wiring.backend key.ceiling.lockKey =
          world.view wiring.backend key.ceiling.lockKey) ∧
        ∀ otherRef, after.view wiring.backend (custFailKey otherRef) =
          world.view wiring.backend (custFailKey otherRef) := by
  apply (returns_clearFailures (d := bindingDeployment client wiring (.working wiring.backend)) rfl
    userId customerRef).mono
  intro _ after leaves
  have view : after.view wiring.backend = Function.update
      (Function.update (world.view wiring.backend) (userFailKey userId customerRef) none)
      (userTotalFailKey userId) none := leaves.view
  rw [view]
  constructor
  · intro key
    have notTotal : key.ceiling.lockKey ≠ userTotalFailKey userId :=
      (LockoutKey.failKey_ne_lockKey (.userTotal userId) key).symm
    have notRef : key.ceiling.lockKey ≠ userFailKey userId customerRef :=
      (LockoutKey.failKey_ne_lockKey (.userRef userId customerRef) key).symm
    rw [Function.update_of_ne notTotal, Function.update_of_ne notRef]
  · intro otherRef
    have notTotal : custFailKey otherRef ≠ userTotalFailKey userId :=
      LockoutKey.failKey_ne (.customer otherRef) (.userTotal userId) trivial plain
        (by intro same; cases same)
    have notRef : custFailKey otherRef ≠ userFailKey userId customerRef :=
      LockoutKey.failKey_ne (.customer otherRef) (.userRef userId customerRef) trivial plain
        (by intro same; cases same)
    rw [Function.update_of_ne notTotal, Function.update_of_ne notRef]

/-- What a check tells depends on the three meters of the user and the reference. -/
theorem lockReason_filter (now : Nat) (customerRef : String) :
    lockReason (lockouts (history.filter (LimiterEntry.concerns userId customerRef))) now userId
        customerRef =
      lockReason (lockouts history) now userId customerRef := by
  unfold lockReason
  rw [lockouts_filter (.userTotal userId) rfl,
    lockouts_filter (.userRef userId customerRef) ⟨rfl, rfl⟩,
    lockouts_filter (.customer customerRef) rfl]

end Answers

/-- The limiter answers what the meters say; a success spares the locks and the counters of the
references; and without the failures of others on other references a check tells the same. -/
theorem lockout_refines (client : CustomerServiceClient) (aes : AesGcm) (wiring : Wiring)
    {start world : BindingWorld client} {history : List LimiterEntry}
    (unused : Unused wiring.backend start)
    (run : LimiterRun client aes wiring start history world) (userId customerRef : String)
    (plain : ':' ∉ userId.toList) (answers : Answering (portSignature (binding client))) :
    (Returns (bindingSystem client aes wiring (.working wiring.backend)) answers
      (checkLocked userId customerRef) world fun state _ =>
        state.reason = lockReason (lockouts history) world.now userId customerRef ∧
          (state.locked = true ↔
            (lockouts history (.userTotal userId)).locked world.now = true ∨
              (lockouts history (.userRef userId customerRef)).locked world.now = true ∨
                (lockouts history (.customer customerRef)).locked world.now = true)) ∧
    (Returns (bindingSystem client aes wiring (.working wiring.backend)) answers
      (recordFailure userId customerRef) world fun outcome _ =>
        outcome.reason = armedReason (lockouts history) world.now userId customerRef ∧
          outcome.lockedNow = outcome.reason.isSome) ∧
    (Returns (bindingSystem client aes wiring (.working wiring.backend)) answers
      (clearFailures userId customerRef) world fun _ after =>
        (∀ key : LockoutKey, after.view wiring.backend key.ceiling.lockKey =
          world.view wiring.backend key.ceiling.lockKey) ∧
        ∀ otherRef, after.view wiring.backend (custFailKey otherRef) =
          world.view wiring.backend (custFailKey otherRef)) ∧
    ∀ {otherStart other : BindingWorld client}, Unused wiring.backend otherStart →
      LimiterRun client aes wiring otherStart
          (history.filter (LimiterEntry.concerns userId customerRef)) other →
        other.now = world.now → ∀ otherAnswers,
          Returns (bindingSystem client aes wiring (.working wiring.backend)) otherAnswers
            (checkLocked userId customerRef) other fun state _ =>
              state.reason = lockReason (lockouts history) world.now userId customerRef ∧
                state.locked = state.reason.isSome := by
  refine ⟨?_, run.records unused plain customerRef, clearFailures_spares plain customerRef, ?_⟩
  · apply (run.checks unused plain customerRef).mono
    rintro state after ⟨reason, locked⟩
    refine ⟨reason, ?_⟩
    rw [locked, reason]
    exact lockReason_isSome
  · intro otherStart other otherUnused otherRun sameNow otherAnswers
    apply (otherRun.checks otherUnused plain customerRef).mono
    rintro state after ⟨reason, locked⟩
    rw [lockReason_filter, sameNow] at reason
    exact ⟨reason, locked⟩

end Runs

/-! ### Three failures -/

abbrev sampleAnswers : Answering (portSignature (binding mockCustomerService)) :=
  obliging memoryBinding.backend "0901234567"

/-- The world a call leaves when everything is up. -/
def afterCall (world : BindingWorld mockCustomerService) (call : LimiterCall) :
    Option (Except Exn Unit × BindingWorld mockCustomerService) :=
  runAlone (bindingSystem mockCustomerService sampleCipher memoryBinding
    (.working memoryBinding.backend)) sampleAnswers call.task world

def sampleFailure : LimiterCall := .recordFailure "U-1" "REF-001"

theorem LimiterRun.fails {start world : BindingWorld mockCustomerService}
    {history : List LimiterEntry}
    (run : LimiterRun mockCustomerService sampleCipher memoryBinding start history world)
    (ends : (afterCall world sampleFailure).isSome = true) :
    LimiterRun mockCustomerService sampleCipher memoryBinding start
      (history ++ [⟨world.now, sampleFailure⟩]) ((afterCall world sampleFailure).get ends).2 :=
  .call run sampleFailure (by decide) (Option.some_get ends).symm

theorem LimiterRun.waits {start world : BindingWorld mockCustomerService}
    {history : List LimiterEntry}
    (run : LimiterRun mockCustomerService sampleCipher memoryBinding start history world)
    (millis : Nat) :
    LimiterRun mockCustomerService sampleCipher memoryBinding start history
      { world with now := world.now + millis } :=
  .between run (.tick millis) rfl

theorem LimiterRun.relabel {start world : BindingWorld mockCustomerService}
    {history other : List LimiterEntry}
    (run : LimiterRun mockCustomerService sampleCipher memoryBinding start history world)
    (same : history = other) :
    LimiterRun mockCustomerService sampleCipher memoryBinding start other world := by
  subst same
  exact run

/-- After three failures within two minutes the user is locked out of the reference. -/
theorem lockout_refines_thrice : ∃ world,
    LimiterRun mockCustomerService sampleCipher memoryBinding (freshBinding 0)
      [⟨0, sampleFailure⟩, ⟨60000, sampleFailure⟩, ⟨120000, sampleFailure⟩] world ∧
    Returns (bindingSystem mockCustomerService sampleCipher memoryBinding
        (.working memoryBinding.backend)) sampleAnswers (checkLocked "U-1" "REF-001") world
      fun state _ => state.reason = some .userRef := by
  have began : LimiterRun mockCustomerService sampleCipher memoryBinding (freshBinding 0) []
      (freshBinding 0) := .start
  have first := began.fails (by decide +kernel)
  have second := (first.waits 60000).fails (by decide +kernel)
  have third : LimiterRun mockCustomerService sampleCipher memoryBinding (freshBinding 0)
      [⟨0, sampleFailure⟩, ⟨60000, sampleFailure⟩, ⟨120000, sampleFailure⟩] _ :=
    ((second.waits 60000).fails (by decide +kernel)).relabel (by decide +kernel)
  refine ⟨_, third, ?_⟩
  apply (lockout_refines mockCustomerService sampleCipher memoryBinding (fun _ => ⟨rfl, rfl⟩)
    third "U-1" "REF-001" (by decide) sampleAnswers).1.mono
  rintro state after ⟨reason, -⟩
  rw [reason]
  decide +kernel

end SelfService
