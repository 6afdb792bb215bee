/-
The slots of the fallback provider, and the timers that empty them.

`setCached` overwrites a slot and, with a ttl, arms a timer; nothing disarms it.  A timer
knows its key and nothing of the value.  It may fire at any time from its due time on, in
any order with the other timers and calls; time is that of the event loop, in milliseconds.
-/

import Mathlib.Algebra.Order.Ring.Rat
import Mathlib.Tactic.Linarith
import SelfService.Core.JsNumber
import SelfService.Port.Registry

namespace SelfService

open Data EventLoop

namespace JsNumber

def isTruthy : JsNumber → Bool
  | .nan => false
  | .finite value => value ≠ 0
  | .negInfinity | .infinity => true

/-- The pause of `setTimeout`.  What is not between 1 and 2147483647 counts as 1, and fractions
are cut off. -/
def timeoutDelay : JsNumber → Nat
  | .finite value => if 1 ≤ value ∧ value ≤ 2147483647 then value.floor.toNat else 1
  | _ => 1

end JsNumber

structure SlotTimer where
  key : String
  /-- The number of the call that has armed it. -/
  armedBy : Nat
  due : Nat
  deriving DecidableEq

/-- A call of `setCached` with its value and ttl, or of `clearCached` with neither. -/
structure SlotCall where
  number : Nat
  key : String
  time : Nat
  content : Option (JsValue × Option JsNumber)
  deriving DecidableEq

/-- The latest call comes first. -/
structure FallbackSlots where
  fallbackCache : Option (OrderedMap String JsValue)
  timers : List SlotTimer
  now : Nat
  calls : List SlotCall

inductive SlotAction
  | setCached (key : String) (value : JsValue) (ttlMs : Option JsNumber)
  | clearCached (key : String)
  | fire (timer : SlotTimer)
  | tick (elapsed : Nat)

def SlotAction.isCall : SlotAction → Bool
  | .setCached _ _ _ | .clearCached _ => true
  | .fire _ | .tick _ => false

/-- From `if (ttlMs)`. -/
def ttlOf (ttlMs : Option JsNumber) : Option JsNumber := ttlMs.filter JsNumber.isTruthy

namespace FallbackSlots

/-- A new provider with the cache that its module hands in. -/
def fresh (now : Nat) : FallbackSlots := ⟨some .empty, [], now, []⟩

def getCached (s : FallbackSlots) (key : String) : JsValue :=
  match s.fallbackCache with
  | none => .null
  | some cache => (cache.get? key).getD .undefined

def setCached (s : FallbackSlots) (key : String) (value : JsValue) (ttlMs : Option JsNumber) :
    FallbackSlots :=
  match s.fallbackCache with
  | none => s
  | some cache =>
      { s with
        fallbackCache := some (cache.set key value)
        timers := s.timers ++ (ttlOf ttlMs).toList.map fun ttl =>
          ⟨key, s.calls.length, s.now + ttl.timeoutDelay⟩ }

def clearCached (s : FallbackSlots) (key : String) : Bool × FallbackSlots :=
  match s.fallbackCache with
  | none => (false, s)
  | some cache => (cache.contains key, { s with fallbackCache := some (cache.erase key) })

/-- The callback deletes whatever the key holds by now. -/
def fire (s : FallbackSlots) (timer : SlotTimer) : FallbackSlots :=
  { s with
    fallbackCache := s.fallbackCache.map fun cache => cache.erase timer.key
    timers := s.timers.filter fun other => other ≠ timer }

def log (s : FallbackSlots) (key : String) (content : Option (JsValue × Option JsNumber)) :
    FallbackSlots :=
  { s with calls := ⟨s.calls.length, key, s.now, content⟩ :: s.calls }

def afterSet (s : FallbackSlots) (key : String) (value : JsValue) (ttlMs : Option JsNumber) :
    FallbackSlots :=
  (s.setCached key value ttlMs).log key (some (value, ttlMs))

def afterClear (s : FallbackSlots) (key : String) : FallbackSlots :=
  (s.clearCached key).2.log key none

def step (s : FallbackSlots) : SlotAction → Option FallbackSlots
  | .setCached key value ttlMs => some (s.afterSet key value ttlMs)
  | .clearCached key => some (s.afterClear key)
  | .fire timer => if timer ∈ s.timers ∧ timer.due ≤ s.now then some (s.fire timer) else none
  | .tick elapsed => some { s with now := s.now + elapsed }

def play : FallbackSlots → List SlotAction → Option FallbackSlots
  | s, [] => some s
  | s, action :: rest => (s.step action).bind fun next => next.play rest

/-! ### What is promised -/

def lastOn (s : FallbackSlots) (key : String) : Option SlotCall :=
  s.calls.find? fun call => call.key = key

/-- The last call on the key has set the value. -/
def SetLast (s : FallbackSlots) (key : String) (call : SlotCall) (value : JsValue)
    (ttlMs : Option JsNumber) : Prop :=
  s.lastOn key = some call ∧ call.content = some (value, ttlMs)

end FallbackSlots

/-- The ttl from a time on has not run out. -/
def JsNumber.Runs (ttl : JsNumber) (time now : Nat) : Prop :=
  match ttl with
  | .finite value => (now : Rat) < time + value
  | .infinity => True
  | .nan | .negInfinity => False

namespace FallbackSlots

/-- What was set last is readable: without a ttl from then on, with a ttl until it has run out and,
if no timer of the key is overdue, no longer.  A timer of an earlier call deletes nothing. -/
structure Promised (s : FallbackSlots) : Prop where
  lasting : ∀ {key call value ttlMs}, s.SetLast key call value ttlMs → ttlOf ttlMs = none →
    s.getCached key = value
  running : ∀ {key call value ttlMs ttl}, s.SetLast key call value ttlMs →
    ttlOf ttlMs = some ttl → ttl.Runs call.time s.now → s.getCached key = value
  ended : ∀ {key call value ttlMs ttl}, s.SetLast key call value ttlMs →
    ttlOf ttlMs = some ttl → ¬ ttl.Runs call.time s.now →
    (∀ timer ∈ s.timers, timer.key = key → s.now < timer.due) → s.getCached key = .undefined
  harmless : ∀ timer ∈ s.timers, timer.due ≤ s.now →
    (∀ call, s.lastOn timer.key = some call → call.number ≠ timer.armedBy) →
    ∀ key, (s.fire timer).getCached key = s.getCached key

end FallbackSlots

/-- A whole number that `setTimeout` takes as it is, or a part of a millisecond. -/
def JsNumber.Schedulable : JsNumber → Prop
  | .finite value =>
      0 < value ∧ value < 1 ∨ (value.floor : Rat) = value ∧ 1 ≤ value ∧ value ≤ 2147483647
  | _ => False

instance : DecidablePred JsNumber.Schedulable
  | .finite value => inferInstanceAs (Decidable (0 < value ∧ value < 1 ∨
      (value.floor : Rat) = value ∧ 1 ≤ value ∧ value ≤ 2147483647))
  | .nan | .negInfinity | .infinity => inferInstanceAs (Decidable False)

namespace FallbackSlots

/-- No timer of the key is pending, and the ttl can be kept. -/
def Undisturbed (s : FallbackSlots) (key : String) (ttlMs : Option JsNumber) : Prop :=
  (∀ timer ∈ s.timers, timer.key ≠ key) ∧ ∀ ttl ∈ ttlOf ttlMs, ttl.Schedulable

instance (s : FallbackSlots) (key : String) (ttlMs : Option JsNumber) :
    Decidable (s.Undisturbed key ttlMs) :=
  inferInstanceAs (Decidable (_ ∧ _))

def SetsUndisturbed (s : FallbackSlots) : SlotAction → Prop
  | .setCached key _ ttlMs => s.Undisturbed key ttlMs
  | .clearCached _ | .fire _ | .tick _ => True

instance (s : FallbackSlots) : DecidablePred s.SetsUndisturbed
  | .setCached key _ ttlMs => inferInstanceAs (Decidable (s.Undisturbed key ttlMs))
  | .clearCached _ | .fire _ | .tick _ => inferInstanceAs (Decidable True)

/-- From a new provider, by steps that set no value while a timer of its key is pending. -/
inductive CarefulRun : FallbackSlots → Prop
  | fresh (now : Nat) : CarefulRun (fresh now)
  | step {s next : FallbackSlots} (run : CarefulRun s) (action : SlotAction)
      (undisturbed : s.SetsUndisturbed action) (stepped : s.step action = some next) :
      CarefulRun next

end FallbackSlots

/-! ### Ttl and delay -/

namespace JsNumber

theorem timeoutDelay_whole {value : Rat} (whole : (value.floor : Rat) = value) (least : 1 ≤ value)
    (most : value ≤ 2147483647) : ((JsNumber.finite value).timeoutDelay : Rat) = value := by
  have positive : 0 ≤ value.floor := Rat.le_floor_iff.mpr (by push_cast; linarith)
  rw [timeoutDelay, if_pos ⟨least, most⟩]
  calc ((value.floor.toNat : Nat) : Rat)
      = ((value.floor.toNat : Int) : Rat) := by norm_cast
    _ = value := by rw [Int.toNat_of_nonneg positive, whole]

theorem timeoutDelay_outside {value : Rat} (outside : value < 1 ∨ 2147483647 < value) :
    (JsNumber.finite value).timeoutDelay = 1 := by
  apply if_neg
  intro inside
  rcases outside with below | above
  · exact absurd inside.1 (not_le.mpr below)
  · exact absurd inside.2 (not_le.mpr above)

theorem timeoutDelay_pos (ttl : JsNumber) : 0 < ttl.timeoutDelay := by
  unfold timeoutDelay
  split
  · rename_i value
    split
    · rename_i inside
      have least : (1 : Int) ≤ value.floor := Rat.le_floor_iff.mpr (by exact_mod_cast inside.1)
      omega
    · exact Nat.one_pos
  · exact Nat.one_pos

/-- A ttl that can be scheduled runs until its timer is due. -/
theorem runs_iff {ttl : JsNumber} (schedulable : ttl.Schedulable) (time now : Nat) :
    ttl.Runs time now ↔ now < time + ttl.timeoutDelay := by
  cases ttl with
  | nan => exact schedulable.elim
  | negInfinity => exact schedulable.elim
  | infinity => exact schedulable.elim
  | finite value =>
      rcases schedulable with ⟨positive, small⟩ | ⟨whole, least, most⟩
      · rw [timeoutDelay_outside (.inl small)]
        constructor
        · intro runs
          have early : (now : Rat) < time + value := runs
          have cast : (now : Rat) < (time + 1 : Nat) := by push_cast; linarith
          exact_mod_cast cast
        · intro early
          have cast : (now : Rat) ≤ time := by exact_mod_cast Nat.le_of_lt_succ early
          change (now : Rat) < time + value
          linarith
      · have delay := timeoutDelay_whole whole least most
        have sum : (time : Rat) + value = (time + timeoutDelay (.finite value) : Nat) := by
          push_cast
          rw [delay]
        change (now : Rat) < time + value ↔ _
        rw [sum]
        exact Nat.cast_lt

/-- Any other ttl runs still when its timer is due, or has run out from the start. -/
theorem not_kept {ttl : JsNumber} (truthy : ttl.isTruthy = true) (not : ¬ ttl.Schedulable)
    (time : Nat) : ttl.Runs time (time + ttl.timeoutDelay) ∨ ¬ ttl.Runs time time := by
  cases ttl with
  | nan => cases truthy
  | negInfinity => exact .inr id
  | infinity => exact .inl trivial
  | finite value =>
      have nonzero : value ≠ 0 := of_decide_eq_true truthy
      have outside : ¬ (0 < value ∧ value < 1) := fun inside => not (.inl inside)
      by_cases positive : 0 < value
      · left
        have least : 1 ≤ value := not_lt.mp fun small => outside ⟨positive, small⟩
        change ((time + timeoutDelay (.finite value) : Nat) : Rat) < time + value
        push_cast
        by_cases most : value ≤ 2147483647
        · have broken : (value.floor : Rat) ≠ value := fun whole => not (.inr ⟨whole, least, most⟩)
          have below : (value.floor : Rat) < value := lt_of_le_of_ne (Rat.floor_le value) broken
          have natural : 0 ≤ value.floor := Rat.le_floor_iff.mpr (by push_cast; linarith)
          have delay : ((timeoutDelay (.finite value) : Nat) : Rat) = value.floor := by
            rw [timeoutDelay, if_pos ⟨least, most⟩]
            exact_mod_cast Int.toNat_of_nonneg natural
          linarith
        · rw [timeoutDelay_outside (.inr (not_le.mp most))]
          push_cast
          linarith
      · right
        intro runs
        have later : (time : Rat) < time + value := runs
        linarith

end JsNumber

namespace FallbackSlots

variable {s next : FallbackSlots} {key other : String} {value : JsValue} {ttlMs : Option JsNumber}

/-! ### What a step does to one slot -/

def entry (s : FallbackSlots) (key : String) : Option JsValue :=
  s.fallbackCache.bind fun cache => cache.get? key

theorem getCached_eq (provided : s.fallbackCache.isSome = true) (key : String) :
    s.getCached key = (s.entry key).getD .undefined := by
  obtain ⟨cache, there⟩ := Option.isSome_iff_exists.mp provided
  rw [getCached, entry, there]
  rfl

theorem entry_fire (timer : SlotTimer) (other : String) :
    (s.fire timer).entry other = if other = timer.key then none else s.entry other := by
  rw [entry, entry, fire]
  cases s.fallbackCache with
  | none => simp
  | some cache => exact cache.get?_erase timer.key other

theorem step_fire {timer : SlotTimer} (pending : timer ∈ s.timers) (due : timer.due ≤ s.now) :
    s.step (.fire timer) = some (s.fire timer) :=
  if_pos ⟨pending, due⟩

theorem provided_fire (provided : s.fallbackCache.isSome = true) (timer : SlotTimer) :
    (s.fire timer).fallbackCache.isSome = true := by
  rw [fire, Option.isSome_map]
  exact provided

theorem getCached_fire (provided : s.fallbackCache.isSome = true) (timer : SlotTimer) :
    (s.fire timer).getCached timer.key = .undefined := by
  rw [getCached_eq (provided_fire provided timer), entry_fire, if_pos rfl, Option.getD_none]

theorem mem_timers_fire (timer other : SlotTimer) :
    other ∈ (s.fire timer).timers ↔ other ∈ s.timers ∧ other ≠ timer := by
  rw [fire, List.mem_filter, decide_eq_true_eq]

theorem lastOn_log (s : FallbackSlots) (key other : String)
    (content : Option (JsValue × Option JsNumber)) :
    (s.log key content).lastOn other =
      if key = other then some ⟨s.calls.length, key, s.now, content⟩ else s.lastOn other := by
  rw [lastOn, log, List.find?_cons]
  by_cases same : key = other
  · simp [same]
  · simp [same, lastOn]

section Set

variable (key other value ttlMs)

theorem now_afterSet (s : FallbackSlots) : (s.afterSet key value ttlMs).now = s.now := by
  rw [afterSet, log, setCached]
  split <;> rfl

theorem length_calls_afterSet (s : FallbackSlots) :
    (s.afterSet key value ttlMs).calls.length = s.calls.length + 1 := by
  rw [afterSet, log, setCached]
  split <;> rfl

theorem lastOn_afterSet (s : FallbackSlots) :
    (s.afterSet key value ttlMs).lastOn other =
      if key = other then some ⟨s.calls.length, key, s.now, some (value, ttlMs)⟩
      else s.lastOn other := by
  rw [afterSet, lastOn_log, setCached]
  cases s.fallbackCache <;> rfl

variable (provided : s.fallbackCache.isSome = true)

include provided

theorem provided_afterSet : (s.afterSet key value ttlMs).fallbackCache.isSome = true := by
  obtain ⟨cache, there⟩ := Option.isSome_iff_exists.mp provided
  rw [afterSet, log, setCached, there]
  rfl

theorem entry_afterSet :
    (s.afterSet key value ttlMs).entry other =
      if key = other then some value else s.entry other := by
  obtain ⟨cache, there⟩ := Option.isSome_iff_exists.mp provided
  rw [entry, entry, afterSet, log, setCached, there]
  exact cache.get?_set key other value

theorem getCached_afterSet : (s.afterSet key value ttlMs).getCached key = value := by
  rw [getCached_eq (provided_afterSet key value ttlMs provided),
    entry_afterSet key key value ttlMs provided, if_pos rfl, Option.getD_some]

theorem mem_timers_afterSet (timer : SlotTimer) :
    timer ∈ (s.afterSet key value ttlMs).timers ↔ timer ∈ s.timers ∨
      ∃ ttl ∈ ttlOf ttlMs, timer = ⟨key, s.calls.length, s.now + ttl.timeoutDelay⟩ := by
  obtain ⟨cache, there⟩ := Option.isSome_iff_exists.mp provided
  rw [afterSet, log, setCached, there]
  simp [eq_comm]

end Set

section Clear

variable (s key other)

theorem now_afterClear : (s.afterClear key).now = s.now := by
  rw [afterClear, log, clearCached]
  split <;> rfl

theorem timers_afterClear : (s.afterClear key).timers = s.timers := by
  rw [afterClear, log, clearCached]
  split <;> rfl

theorem length_calls_afterClear : (s.afterClear key).calls.length = s.calls.length + 1 := by
  rw [afterClear, log, clearCached]
  split <;> rfl

theorem lastOn_afterClear :
    (s.afterClear key).lastOn other =
      if key = other then some ⟨s.calls.length, key, s.now, none⟩ else s.lastOn other := by
  rw [afterClear, lastOn_log, clearCached]
  cases s.fallbackCache <;> rfl

theorem provided_afterClear :
    (s.afterClear key).fallbackCache.isSome = s.fallbackCache.isSome := by
  rw [afterClear, log, clearCached]
  cases there : s.fallbackCache with
  | none => exact congrArg Option.isSome there
  | some cache => rfl

theorem entry_afterClear :
    (s.afterClear key).entry other = if other = key then none else s.entry other := by
  rw [entry, entry, afterClear, log, clearCached]
  cases there : s.fallbackCache with
  | none => simp [there]
  | some cache => exact cache.get?_erase key other

end Clear

/-! ### The slots of a careful run -/

/-- A pending timer belongs to the last call on its key; a value with a ttl is there with its timer,
or the ttl has run out and the slot is empty. -/
structure Slot (s : FallbackSlots) (key : String) : Prop where
  owned : ∀ timer ∈ s.timers, timer.key = key → ∀ {call value ttlMs},
    s.SetLast key call value ttlMs → ∃ ttl, ttlOf ttlMs = some ttl ∧
      timer = ⟨key, call.number, call.time + ttl.timeoutDelay⟩
  empty : (∀ call value ttlMs, ¬ s.SetLast key call value ttlMs) → s.entry key = none
  lasting : ∀ {call value ttlMs}, s.SetLast key call value ttlMs → ttlOf ttlMs = none →
    s.entry key = some value
  timed : ∀ {call value ttlMs ttl}, s.SetLast key call value ttlMs → ttlOf ttlMs = some ttl →
    ttl.Schedulable ∧ (s.entry key = some value ∧
        ⟨key, call.number, call.time + ttl.timeoutDelay⟩ ∈ s.timers ∨
      s.entry key = none ∧ call.time + ttl.timeoutDelay ≤ s.now)

/-- What does not touch the key keeps its slot. -/
theorem Slot.frame (slot : s.Slot key) (last : next.lastOn key = s.lastOn key)
    (same : next.entry key = s.entry key)
    (timers : ∀ timer, timer.key = key → (timer ∈ next.timers ↔ timer ∈ s.timers))
    (clock : s.now ≤ next.now) : next.Slot key := by
  have kept : ∀ {call value ttlMs}, next.SetLast key call value ttlMs →
      s.SetLast key call value ttlMs := by
    intro call value ttlMs set
    exact ⟨last ▸ set.1, set.2⟩
  constructor
  · intro timer member own call value ttlMs set
    exact slot.owned timer ((timers timer own).mp member) own (kept set)
  · intro unset
    rw [same]
    exact slot.empty fun call value ttlMs set => unset call value ttlMs ⟨last.trans set.1, set.2⟩
  · intro call value ttlMs set untimed
    rw [same]
    exact slot.lasting (kept set) untimed
  · intro call value ttlMs ttl set timed
    obtain ⟨schedulable, state⟩ := slot.timed (kept set) timed
    rw [same, timers _ rfl]
    exact ⟨schedulable, state.imp_right fun past => ⟨past.1, past.2.trans clock⟩⟩

structure Tended (s : FallbackSlots) : Prop where
  provided : s.fallbackCache.isSome = true
  numbered : ∀ timer ∈ s.timers, timer.armedBy < s.calls.length
  slots : ∀ key, s.Slot key

theorem tended_fresh (now : Nat) : (fresh now).Tended := by
  refine ⟨rfl, nofun, fun key => ⟨nofun, fun _ => rfl, ?_, ?_⟩⟩
  · exact fun set => nomatch set.1
  · exact fun set => nomatch set.1

theorem Tended.set (tended : s.Tended) (undisturbed : s.Undisturbed key ttlMs) (value : JsValue) :
    (s.afterSet key value ttlMs).Tended := by
  obtain ⟨free, schedulable⟩ := undisturbed
  have members := mem_timers_afterSet key value ttlMs tended.provided
  refine ⟨provided_afterSet key value ttlMs tended.provided, ?_, fun other => ?_⟩
  · intro timer member
    rw [length_calls_afterSet]
    rcases (members timer).mp member with old | ⟨ttl, timed, rfl⟩
    · exact Nat.lt_succ_of_lt (tended.numbered timer old)
    · exact Nat.lt_succ_self _
  · have last := lastOn_afterSet key other value ttlMs s
    have stored := entry_afterSet key other value ttlMs tended.provided
    by_cases same : key = other
    · subst same
      rw [if_pos rfl] at last stored
      have now : ∀ {call value' ttlMs'},
          (s.afterSet key value ttlMs).SetLast key call value' ttlMs' →
          call = ⟨s.calls.length, key, s.now, some (value, ttlMs)⟩ ∧ value' = value ∧
            ttlMs' = ttlMs := by
        intro call value' ttlMs' set
        obtain ⟨found, content⟩ := set
        cases last.symm.trans found
        cases content
        exact ⟨rfl, rfl, rfl⟩
      constructor
      · intro timer member own call value' ttlMs' set
        obtain ⟨rfl, rfl, rfl⟩ := now set
        rcases (members timer).mp member with old | ⟨ttl, timed, rfl⟩
        · exact absurd own (free timer old)
        · exact ⟨ttl, timed, rfl⟩
      · intro unset
        exact absurd ⟨last, rfl⟩ (unset _ value ttlMs)
      · intro call value' ttlMs' set untimed
        obtain ⟨rfl, rfl, rfl⟩ := now set
        exact stored
      · intro call value' ttlMs' ttl set timed
        obtain ⟨rfl, rfl, rfl⟩ := now set
        exact ⟨schedulable ttl timed, .inl ⟨stored, (members _).mpr (.inr ⟨ttl, timed, rfl⟩)⟩⟩
    · rw [if_neg same] at last stored
      refine (tended.slots other).frame last stored ?_ (now_afterSet ..).ge
      intro timer own
      constructor
      · intro member
        rcases (members timer).mp member with old | ⟨ttl, timed, rfl⟩
        · exact old
        · exact absurd own same
      · exact fun old => (members timer).mpr (.inl old)

theorem Tended.clear (tended : s.Tended) (key : String) : (s.afterClear key).Tended := by
  refine ⟨(provided_afterClear ..).trans tended.provided, ?_, fun other => ?_⟩
  · intro timer member
    rw [timers_afterClear] at member
    rw [length_calls_afterClear]
    exact Nat.lt_succ_of_lt (tended.numbered timer member)
  · have last := lastOn_afterClear s key other
    have stored := entry_afterClear s key other
    by_cases same : key = other
    · subst same
      rw [if_pos rfl] at last stored
      have unset : ∀ {call value ttlMs}, ¬ (s.afterClear key).SetLast key call value ttlMs := by
        intro call value ttlMs set
        obtain ⟨found, content⟩ := set
        cases last.symm.trans found
        cases content
      constructor
      · exact fun _ _ _ _ _ _ set => absurd set unset
      · exact fun _ => stored
      · exact fun set => absurd set unset
      · exact fun set => absurd set unset
    · rw [if_neg same] at last
      rw [if_neg (Ne.symm same)] at stored
      refine (tended.slots other).frame last stored ?_ (now_afterClear ..).ge
      intro timer _
      rw [timers_afterClear]

theorem Tended.fire (tended : s.Tended) {timer : SlotTimer} (pending : timer ∈ s.timers)
    (due : timer.due ≤ s.now) : (s.fire timer).Tended := by
  refine ⟨provided_fire tended.provided timer, fun other member => ?_, fun key => ?_⟩
  · exact tended.numbered other ((mem_timers_fire timer other).mp member).1
  · have slot := tended.slots key
    have emptied := entry_fire timer key (s := s)
    by_cases same : key = timer.key
    · rw [if_pos same] at emptied
      constructor
      · intro other member own call value ttlMs set
        exact slot.owned other ((mem_timers_fire timer other).mp member).1 own set
      · exact fun _ => emptied
      · intro call value ttlMs set untimed
        obtain ⟨ttl, timed, -⟩ := slot.owned timer pending same.symm set
        cases untimed.symm.trans timed
      · intro call value ttlMs ttl set timed
        obtain ⟨ttl', timed', rfl⟩ := slot.owned timer pending same.symm set
        cases timed.symm.trans timed'
        exact ⟨(slot.timed set timed).1, .inr ⟨emptied, due⟩⟩
    · rw [if_neg same] at emptied
      refine slot.frame rfl emptied ?_ (Nat.le_refl _)
      intro other own
      rw [mem_timers_fire]
      exact and_iff_left fun equal => same (own.symm.trans (congrArg SlotTimer.key equal))

theorem Tended.tick (tended : s.Tended) (elapsed : Nat) :
    Tended { s with now := s.now + elapsed } where
  provided := tended.provided
  numbered := tended.numbered
  slots key := (tended.slots key).frame rfl rfl (fun _ _ => Iff.rfl) (Nat.le_add_right ..)

theorem Tended.step (tended : s.Tended) {action : SlotAction}
    (undisturbed : s.SetsUndisturbed action) (stepped : s.step action = some next) :
    next.Tended := by
  cases action with
  | setCached key value ttlMs =>
      cases stepped
      exact tended.set undisturbed value
  | clearCached key =>
      cases stepped
      exact tended.clear key
  | fire timer =>
      obtain ⟨⟨pending, due⟩, same⟩ := Option.ite_none_right_eq_some.mp stepped
      cases same
      exact tended.fire pending due
  | tick elapsed =>
      cases stepped
      exact tended.tick elapsed

theorem CarefulRun.tended (run : CarefulRun s) : s.Tended := by
  induction run with
  | fresh now => exact tended_fresh now
  | step run action undisturbed stepped ih => exact ih.step undisturbed stepped

theorem Tended.promised (tended : s.Tended) : s.Promised := by
  have shown : ∀ {key value}, s.entry key = some value → s.getCached key = value := by
    intro key value there
    rw [getCached_eq tended.provided, there, Option.getD_some]
  constructor
  · intro key call value ttlMs set untimed
    exact shown ((tended.slots key).lasting set untimed)
  · intro key call value ttlMs ttl set timed runs
    obtain ⟨schedulable, state⟩ := (tended.slots key).timed set timed
    rw [JsNumber.runs_iff schedulable] at runs
    rcases state with ⟨there, -⟩ | ⟨-, past⟩
    · exact shown there
    · exact absurd runs (Nat.not_lt.mpr past)
  · intro key call value ttlMs ttl set timed out quiet
    obtain ⟨schedulable, state⟩ := (tended.slots key).timed set timed
    rw [JsNumber.runs_iff schedulable] at out
    rcases state with ⟨-, pending⟩ | ⟨gone, -⟩
    · exact absurd (quiet _ pending rfl) out
    · rw [getCached_eq tended.provided, gone, Option.getD_none]
  · intro timer pending due stale key
    rw [getCached_eq (provided_fire tended.provided timer), getCached_eq tended.provided,
      entry_fire]
    by_cases same : key = timer.key
    · subst same
      have unset : ∀ call value ttlMs, ¬ s.SetLast timer.key call value ttlMs := by
        intro call value ttlMs set
        obtain ⟨ttl, -, own⟩ := (tended.slots timer.key).owned timer pending rfl set
        exact stale call set.1 (congrArg SlotTimer.armedBy own).symm
      rw [if_pos rfl, (tended.slots timer.key).empty unset]
    · rw [if_neg same]

/-! ### Lifetimes -/

theorem play_induction {holds : FallbackSlots → Prop} {allowed : SlotAction → Prop}
    (steps : ∀ {s next action}, holds s → allowed action → s.step action = some next → holds next)
    {actions : List SlotAction} (all : ∀ action ∈ actions, allowed action) (start : holds s)
    (played : s.play actions = some next) : holds next := by
  induction actions generalizing s with
  | nil =>
      cases played
      exact start
  | cons action rest ih =>
      obtain ⟨between, stepped, played⟩ := Option.bind_eq_some_iff.mp played
      have after := steps start (all action List.mem_cons_self) stepped
      exact ih (fun other member => all other (List.mem_cons_of_mem _ member)) after played

theorem Tended.play {later : List SlotAction} (tended : s.Tended)
    (quiet : ∀ action ∈ later, action.isCall = false) (played : s.play later = some next) :
    next.Tended := by
  apply play_induction _ quiet tended played
  intro before after action held uncalled stepped
  apply held.step _ stepped
  cases action with
  | setCached key value ttlMs => cases uncalled
  | clearCached key => trivial
  | fire timer => trivial
  | tick elapsed => trivial

/-- A timer that is pending when its key is set deletes the new value. -/
theorem Tended.disturbed (tended : s.Tended) {timer : SlotTimer} (pending : timer ∈ s.timers)
    (ttlMs : Option JsNumber) : ∃ next,
      s.play [.setCached timer.key (.bool true) ttlMs, .tick timer.due] = some next ∧
        ¬ next.Promised := by
  have provided := provided_afterSet timer.key (.bool true) ttlMs tended.provided
  have shown := getCached_afterSet timer.key (.bool true) ttlMs tended.provided
  have members := mem_timers_afterSet timer.key (.bool true) ttlMs tended.provided
  refine ⟨_, rfl, fun promised => ?_⟩
  have kept := promised.harmless timer ((members timer).mpr (.inl pending)) (Nat.le_add_left ..)
    (fun call found => ?_) timer.key
  · have gone := (getCached_fire (by exact provided) timer).symm.trans kept
    exact nomatch gone.trans shown
  · have last := lastOn_afterSet timer.key timer.key (.bool true) ttlMs s
    rw [if_pos rfl] at last
    cases last.symm.trans found
    exact (Nat.ne_of_lt (tended.numbered timer pending)).symm

/-- A ttl that cannot be scheduled is cut short, or keeps the value too long. -/
theorem Tended.unscheduled (tended : s.Tended) (free : ∀ timer ∈ s.timers, timer.key ≠ key)
    {ttl : JsNumber} (timed : ttlOf ttlMs = some ttl) (not : ¬ ttl.Schedulable) :
    ∃ later next, (∀ action ∈ later, action.isCall = false) ∧
      s.play (.setCached key (.bool true) ttlMs :: later) = some next ∧ ¬ next.Promised := by
  have truthy : ttl.isTruthy = true := (Option.filter_eq_some_iff.mp timed).2
  have provided := provided_afterSet key (.bool true) ttlMs tended.provided
  have shown := getCached_afterSet key (.bool true) ttlMs tended.provided
  have members := mem_timers_afterSet key (.bool true) ttlMs tended.provided
  have now := now_afterSet key (.bool true) ttlMs s
  have last := lastOn_afterSet key key (.bool true) ttlMs s
  rw [if_pos rfl] at last
  rcases JsNumber.not_kept truthy not s.now with runs | out
  · -- its own timer deletes the value before the ttl has run out
    have own := (members _).mpr (.inr ⟨ttl, timed, rfl⟩)
    have due : s.now + ttl.timeoutDelay =
        (s.afterSet key (.bool true) ttlMs).now + ttl.timeoutDelay := by rw [now]
    refine ⟨[.tick ttl.timeoutDelay, .fire ⟨key, s.calls.length, s.now + ttl.timeoutDelay⟩], _,
      by simp [SlotAction.isCall], Option.bind_eq_some_iff.mpr ⟨_, rfl,
        Option.bind_eq_some_iff.mpr ⟨_, rfl, Option.bind_eq_some_iff.mpr
          ⟨_, step_fire own due.le, rfl⟩⟩⟩, fun promised => ?_⟩
    have kept := promised.running ⟨last, rfl⟩ timed (by rw [due] at runs; exact runs)
    exact nomatch (getCached_fire (by exact provided) _).symm.trans kept
  · -- the ttl has run out at once, and the timer is not due yet
    refine ⟨[], _, nofun, rfl, fun promised => ?_⟩
    have gone := promised.ended ⟨last, rfl⟩ timed (by rw [now]; exact out)
      fun timer member own => ?_
    · exact nomatch shown.symm.trans gone
    · rw [now]
      rcases (members timer).mp member with old | ⟨ttl', timed', rfl⟩
      · exact absurd own (free timer old)
      · exact Nat.lt_add_of_pos_right ttl'.timeoutDelay_pos

/-- If values are set only while no timer of their key is pending, each is readable for its time and
no longer.  A value that is set while one is pending may be lost, even if no further call comes. -/
theorem slot_lifetime (run : CarefulRun s) :
    s.Promised ∧ ∀ key ttlMs,
      (∀ value later next, (∀ action ∈ later, action.isCall = false) →
        s.play (.setCached key value ttlMs :: later) = some next → next.Promised) ↔
      s.Undisturbed key ttlMs := by
  have tended := run.tended
  refine ⟨tended.promised, fun key ttlMs => ⟨fun safe => ?_, fun undisturbed => ?_⟩⟩
  · have free : ∀ timer ∈ s.timers, timer.key ≠ key := by
      intro timer pending own
      subst own
      obtain ⟨next, played, broken⟩ := tended.disturbed pending ttlMs
      exact broken (safe _ _ next (by simp [SlotAction.isCall]) played)
    refine ⟨free, fun ttl timed => ?_⟩
    by_contra unscheduled
    obtain ⟨later, next, quiet, played, broken⟩ := tended.unscheduled free timed unscheduled
    exact broken (safe _ later next quiet played)
  · intro value later next quiet played
    exact ((tended.set undisturbed value).play quiet played).promised

/-- A slot is set anew after its timer has fired. -/
theorem slot_lifetime_renewed :
    ∃ s, CarefulRun s ∧ s.getCached "billing" = .str "new" ∧ s.Promised := by
  have first := CarefulRun.step (.fresh 0)
    (.setCached "billing" (.str "old") (some (.finite 1000))) (by decide +kernel) rfl
  have waited := first.step (.tick 1000) trivial rfl
  have fired := waited.step (.fire ⟨"billing", 0, 1000⟩) trivial
    (step_fire (by decide +kernel) (by decide +kernel))
  have again := fired.step (.setCached "billing" (.str "new") none) (by decide +kernel) rfl
  exact ⟨_, again, by decide +kernel, (slot_lifetime again).1⟩

/-- The timer of the old value deletes the new one. -/
theorem stale_timer_deletes : ∃ s,
    (fresh 0).play [.setCached "billing" (.str "old") (some (.finite 1000)), .tick 500,
      .setCached "billing" (.str "new") none, .tick 500, .fire ⟨"billing", 0, 1000⟩] = some s ∧
      s.getCached "billing" = .undefined ∧ ¬ s.Promised := by
  have seen : ((fresh 0).play [.setCached "billing" (.str "old") (some (.finite 1000)), .tick 500,
      .setCached "billing" (.str "new") none, .tick 500, .fire ⟨"billing", 0, 1000⟩]).any (fun s =>
        s.getCached "billing" = .undefined ∧
          s.lastOn "billing" = some ⟨1, "billing", 500, some (.str "new", none)⟩) = true := by
    decide +kernel
  obtain ⟨s, played, shown⟩ := (Option.any_eq_true _ _).mp seen
  obtain ⟨gone, last⟩ := of_decide_eq_true shown
  refine ⟨s, played, gone, fun promised => ?_⟩
  have kept := promised.lasting ⟨last, rfl⟩ rfl
  exact nomatch gone.symm.trans kept

/-! ### Without a ttl -/

def Untimed : SlotAction → Prop
  | .setCached _ _ ttlMs => ttlOf ttlMs = none
  | _ => True

/-- No timer was ever armed. -/
structure Plain (s : FallbackSlots) : Prop where
  run : CarefulRun s
  timers : s.timers = []
  untimed : ∀ {key call value ttlMs}, s.SetLast key call value ttlMs → ttlOf ttlMs = none

theorem Plain.step (plain : s.Plain) {action : SlotAction} (untimed : Untimed action)
    (stepped : s.step action = some next) : next.Plain := by
  have none : ∀ {timer}, timer ∉ s.timers := fun {timer} member =>
    List.not_mem_nil (plain.timers ▸ member)
  cases action with
  | setCached key value ttlMs =>
      have undisturbed : s.Undisturbed key ttlMs := by
        refine ⟨fun timer member => absurd member none, fun ttl timed => ?_⟩
        cases untimed.symm.trans timed
      have run := plain.run.step (.setCached key value ttlMs) undisturbed stepped
      cases stepped
      refine ⟨run, ?_, fun {other call value' ttlMs'} set => ?_⟩
      · apply List.eq_nil_iff_forall_not_mem.mpr
        intro timer member
        rcases (mem_timers_afterSet key value ttlMs plain.run.tended.provided timer).mp member with
          old | ⟨ttl, timed, -⟩
        · exact none old
        · cases untimed.symm.trans timed
      · obtain ⟨found, content⟩ := set
        rw [lastOn_afterSet] at found
        split at found
        · cases found
          cases content
          exact untimed
        · exact plain.untimed ⟨found, content⟩
  | clearCached key =>
      have run := plain.run.step (.clearCached key) trivial stepped
      cases stepped
      refine ⟨run, (timers_afterClear ..).trans plain.timers, fun set => ?_⟩
      obtain ⟨found, content⟩ := set
      rw [lastOn_afterClear] at found
      split at found
      · cases found
        cases content
      · exact plain.untimed ⟨found, content⟩
  | fire timer =>
      obtain ⟨⟨pending, -⟩, -⟩ := Option.ite_none_right_eq_some.mp stepped
      exact absurd pending none
  | tick elapsed =>
      have run := plain.run.step (.tick elapsed) trivial stepped
      cases stepped
      exact ⟨run, plain.timers, plain.untimed⟩

/-- If no value gets a ttl, a slot holds what was set last. -/
theorem untimed_slots {now : Nat} {actions : List SlotAction}
    (untimed : ∀ action ∈ actions, Untimed action) (played : (fresh now).play actions = some s)
    {call : SlotCall} (set : s.SetLast key call value ttlMs) : s.getCached key = value := by
  have plain : s.Plain := by
    apply play_induction _ untimed ⟨.fresh now, rfl, fun set => nomatch set.1⟩ played
    exact fun held allowed stepped => held.step allowed stepped
  exact plain.run.tended.promised.lasting set (plain.untimed set)

/-- The port registry sets its slots so. -/
theorem registry_slots {X : Extension} {world : World X}
    (same : s.fallbackCache = some world.fallbackCache) (key : String) (value : JsValue) :
    s.getCached key = FallbackProvider.getCached world key ∧
      (s.setCached key value none).fallbackCache =
        some (FallbackProvider.setCached key value world).fallbackCache := by
  rw [getCached, setCached, same]
  exact ⟨rfl, rfl⟩

end FallbackSlots

end SelfService
