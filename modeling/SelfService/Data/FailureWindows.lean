/-
Failures counted in windows.

A meter counts failures in a window that starts at the first of them.  A
failure that reaches the limit locks the meter for a while and ends the window.
A ledger keeps one meter for each key.
-/

import Mathlib.Logic.Function.Basic

namespace Data

/-- How many failures lock, over which time they count, and how long the lock holds. -/
structure LockRule where
  limit : Nat
  window : Nat
  lock : Nat

structure FailureWindow where
  count : Nat
  since : Nat
  deriving DecidableEq

structure Meter where
  window : Option FailureWindow
  lockedThrough : Option Nat
  deriving DecidableEq

namespace Meter

def unused : Meter := ⟨none, none⟩

/-- The last instant of a lock belongs to it. -/
def locked (now : Nat) (meter : Meter) : Bool :=
  meter.lockedThrough.any fun last => now ≤ last

/-- The window a failure counts in, with the failure: a new one unless one is running. -/
def counting (rule : LockRule) (now : Nat) (meter : Meter) : FailureWindow :=
  match meter.window with
  | some window =>
      if now < window.since + rule.window then ⟨window.count + 1, window.since⟩ else ⟨1, now⟩
  | none => ⟨1, now⟩

def arms (rule : LockRule) (now : Nat) (meter : Meter) : Bool :=
  rule.limit ≤ (meter.counting rule now).count

def fail (rule : LockRule) (now : Nat) (meter : Meter) : Meter :=
  if meter.arms rule now then ⟨none, some (now + rule.lock)⟩
  else { meter with window := some (meter.counting rule now) }

def clear (meter : Meter) : Meter := { meter with window := none }

variable {rule : LockRule} {now : Nat} {meter : Meter}

theorem counting_of_running {window : FailureWindow} (counted : meter.window = some window)
    (running : now < window.since + rule.window) :
    meter.counting rule now = ⟨window.count + 1, window.since⟩ := by
  rw [counting, counted]
  exact if_pos running

theorem counting_of_elapsed
    (elapsed : ∀ window, meter.window = some window → window.since + rule.window ≤ now) :
    meter.counting rule now = ⟨1, now⟩ := by
  unfold counting
  split
  · rename_i window counted
    exact if_neg (Nat.not_lt.mpr (elapsed window counted))
  · rfl

/-- A window has begun when its failures are counted. -/
theorem counting_since_le
    (began : ∀ window, meter.window = some window → window.since ≤ now) :
    (meter.counting rule now).since ≤ now := by
  unfold counting
  split
  · rename_i window counted
    split
    · exact began window counted
    · exact Nat.le_refl now
  · exact Nat.le_refl now

theorem fail_of_arms (armed : meter.arms rule now = true) :
    meter.fail rule now = ⟨none, some (now + rule.lock)⟩ := if_pos armed

theorem fail_of_counts (counts : meter.arms rule now = false) :
    meter.fail rule now = ⟨some (meter.counting rule now), meter.lockedThrough⟩ := by
  rw [fail, counts]
  rfl

/-- One failure after the other. -/
def failAll (rule : LockRule) (meter : Meter) (times : List Nat) : Meter :=
  times.foldl (fun meter now => meter.fail rule now) meter

/-- As long as the window runs and the limit is not reached, failures add up. -/
theorem failAll_counts {times : List Nat} {count since : Nat} {lockedThrough : Option Nat}
    (within : ∀ now ∈ times, now < since + rule.window)
    (few : count + times.length < rule.limit) :
    failAll rule ⟨some ⟨count, since⟩, lockedThrough⟩ times =
      ⟨some ⟨count + times.length, since⟩, lockedThrough⟩ := by
  induction times generalizing count with
  | nil => rfl
  | cons now rest ih =>
      rw [List.length_cons] at few
      have one : counting rule now ⟨some ⟨count, since⟩, lockedThrough⟩ = ⟨count + 1, since⟩ :=
        @counting_of_running rule now _ ⟨count, since⟩ rfl (within now List.mem_cons_self)
      have counts : arms rule now ⟨some ⟨count, since⟩, lockedThrough⟩ = false := by
        rw [arms, one, decide_eq_false_iff_not]
        change ¬ rule.limit ≤ count + 1
        omega
      change failAll rule (fail rule now ⟨some ⟨count, since⟩, lockedThrough⟩) rest = _
      rw [fail_of_counts counts, one, ih (fun later member => within later
        (List.mem_cons_of_mem _ member)) (by omega), List.length_cons]
      congr 3
      omega

/-- From a failure that starts a window on, the one that reaches the limit arms the lock. -/
theorem failAll_arms {first last : Nat} {middle : List Nat}
    (fresh : ∀ window, meter.window = some window → window.since + rule.window ≤ first)
    (within : ∀ now ∈ middle ++ [last], now < first + rule.window)
    (enough : middle.length + 2 = rule.limit) :
    meter.failAll rule (first :: (middle ++ [last])) = ⟨none, some (last + rule.lock)⟩ := by
  have one : meter.counting rule first = ⟨1, first⟩ := counting_of_elapsed fresh
  have counts : meter.arms rule first = false := by
    rw [arms, one, decide_eq_false_iff_not]
    change ¬ rule.limit ≤ 1
    omega
  have early (now : Nat) (member : now ∈ middle) : now < first + rule.window :=
    within now (List.mem_append_left _ member)
  have opened : meter.fail rule first = ⟨some ⟨1, first⟩, meter.lockedThrough⟩ := by
    rw [fail_of_counts counts, one]
  have filled : failAll rule (meter.fail rule first) middle =
      ⟨some ⟨1 + middle.length, first⟩, meter.lockedThrough⟩ := by
    rw [opened]
    exact failAll_counts early (by omega)
  have armed : arms rule last ⟨some ⟨1 + middle.length, first⟩, meter.lockedThrough⟩ = true := by
    rw [arms, counting_of_running rfl (within last List.mem_concat_self), decide_eq_true_eq]
    change rule.limit ≤ 1 + middle.length + 1
    omega
  change List.foldl _ (meter.fail rule first) (middle ++ [last]) = _
  rw [List.foldl_append]
  change fail rule last (failAll rule (meter.fail rule first) middle) = _
  rw [filled, fail_of_arms armed]

/-- Where no failure meets a lock and locks outlast windows, a window takes no more failures than
the limit. -/
theorem failures_le {first : Nat} {rest : List Nat}
    (fresh : ∀ window, meter.window = some window → window.since + rule.window ≤ first)
    (within : ∀ now ∈ rest, now < first + rule.window) (order : ∀ now ∈ rest, first ≤ now)
    (unlocked : ∀ early now late, first :: rest = early ++ now :: late →
      (meter.failAll rule early).locked now = false)
    (several : 2 ≤ rule.limit) (lasts : rule.window ≤ rule.lock) :
    (first :: rest).length ≤ rule.limit := by
  rw [List.length_cons]
  by_contra exceeded
  have next : rule.limit - 1 < rest.length := by omega
  obtain ⟨middle, last, taken⟩ : ∃ middle last, rest.take (rule.limit - 1) = middle ++ [last] := by
    rcases List.eq_nil_or_concat (rest.take (rule.limit - 1)) with nothing | ⟨middle, last, same⟩
    · have length := congrArg List.length nothing
      rw [List.length_take, List.length_nil] at length
      omega
    · exact ⟨middle, last, by rw [same, List.concat_eq_append]⟩
  have enough : middle.length + 2 = rule.limit := by
    have length := congrArg List.length taken
    rw [List.length_take, List.length_append, List.length_singleton] at length
    omega
  have among (now : Nat) (member : now ∈ middle ++ [last]) : now ∈ rest :=
    List.mem_of_mem_take (taken ▸ member)
  have split : first :: rest = (first :: (middle ++ [last])) ++
      rest[rule.limit - 1] :: rest.drop (rule.limit - 1 + 1) := by
    rw [← taken, List.cons_append, ← List.drop_eq_getElem_cons next, List.take_append_drop]
  have locked := unlocked _ _ _ split
  rw [failAll_arms fresh (fun now member => within now (among now member)) enough, Meter.locked,
    Option.any_some, decide_eq_false_iff_not] at locked
  have soon := within _ (List.getElem_mem next)
  have since := order last (among last List.mem_concat_self)
  omega

end Meter

/-! ### Ledgers -/

/-- What is recorded of one key. -/
inductive MeterEvent (κ : Type) : Type
  | fail (key : κ)
  | clear (key : κ)

def MeterEvent.key {κ : Type} : MeterEvent κ → κ
  | .fail key | .clear key => key

section Ledgers

variable {κ : Type} [DecidableEq κ] (rule : κ → LockRule)

def MeterEvent.fails (key : κ) : MeterEvent κ → Bool
  | .fail other => other = key
  | .clear _ => false

def MeterEvent.clears (key : κ) : MeterEvent κ → Bool
  | .fail _ => false
  | .clear other => other = key

def record (now : Nat) (ledger : κ → Meter) : MeterEvent κ → κ → Meter
  | .fail key => Function.update ledger key ((ledger key).fail (rule key) now)
  | .clear key => Function.update ledger key (ledger key).clear

def recordAll (now : Nat) (ledger : κ → Meter) (events : List (MeterEvent κ)) : κ → Meter :=
  events.foldl (record rule now) ledger

variable {rule} {now : Nat} {left right : κ → Meter} {key : κ}

theorem record_of_ne {event : MeterEvent κ} (different : key ≠ event.key) :
    record rule now left event key = left key := by
  cases event with
  | fail other => exact Function.update_of_ne different _ _
  | clear other => exact Function.update_of_ne different _ _

/-- A meter changes by what it was and by what is recorded of its own key. -/
theorem record_congr (same : left key = right key) (event : MeterEvent κ) :
    record rule now left event key = record rule now right event key := by
  by_cases own : key = event.key
  · subst own
    cases event with
    | fail other =>
        simp only [record, MeterEvent.key, Function.update_self]
        rw [show left other = right other from same]
    | clear other =>
        simp only [record, MeterEvent.key, Function.update_self]
        rw [show left other = right other from same]
  · rw [record_of_ne own, record_of_ne own, same]

theorem recordAll_congr (events : List (MeterEvent κ)) (same : left key = right key) :
    recordAll rule now left events key = recordAll rule now right events key := by
  induction events generalizing left right with
  | nil => exact same
  | cons event rest ih => exact ih (record_congr same event)

theorem recordAll_of_notMem {events : List (MeterEvent κ)}
    (elsewhere : ∀ event ∈ events, key ≠ event.key) :
    recordAll rule now left events key = left key := by
  induction events generalizing left with
  | nil => rfl
  | cons event rest ih =>
      have kept : record rule now left event key = left key :=
        record_of_ne (elsewhere event List.mem_cons_self)
      rw [← kept]
      exact ih fun later member => elsewhere later (List.mem_cons_of_mem _ member)

theorem ne_key_of_silent {event : MeterEvent κ} (fails : event.fails key = false)
    (clears : event.clears key = false) : key ≠ event.key := by
  rintro rfl
  cases event with
  | fail other => simp [MeterEvent.fails, MeterEvent.key] at fails
  | clear other => simp [MeterEvent.clears, MeterEvent.key] at clears

/-- Among other things the key fails once. -/
theorem recordAll_of_once {early late : List (MeterEvent κ)}
    (before : ∀ event ∈ early, key ≠ event.key) (later : ∀ event ∈ late, key ≠ event.key) :
    recordAll rule now left (early ++ .fail key :: late) key =
      (left key).fail (rule key) now := by
  have split : recordAll rule now left (early ++ .fail key :: late) =
      recordAll rule now (record rule now (recordAll rule now left early) (.fail key)) late :=
    List.foldl_append
  rw [split, recordAll_of_notMem later, record, Function.update_self, recordAll_of_notMem before]

/-! ### Histories -/

section Histories

variable {τ : Type} (rule : κ → LockRule) (now : τ → Nat) (events : τ → List (MeterEvent κ))

/-- What a history leaves in a ledger; every item has its instant and its events. -/
def replayFrom (ledger : κ → Meter) (history : List τ) : κ → Meter :=
  history.foldl (fun ledger item => recordAll rule (now item) ledger (events item)) ledger

def replay (history : List τ) : κ → Meter := replayFrom rule now events (fun _ => .unused) history

variable {rule now events}

theorem replay_append (history : List τ) (item : τ) :
    replay rule now events (history ++ [item]) =
      recordAll rule (now item) (replay rule now events history) (events item) :=
  List.foldl_append

/-- Items that are about other keys leave no trace in a meter. -/
theorem replayFrom_filter {keep : τ → Bool}
    (foreign : ∀ item, keep item = false → ∀ event ∈ events item, key ≠ event.key)
    (history : List τ) (same : left key = right key) :
    replayFrom rule now events left (history.filter keep) key =
      replayFrom rule now events right history key := by
  induction history generalizing left right with
  | nil => exact same
  | cons item rest ih =>
      cases kept : keep item with
      | true =>
          rw [List.filter_cons_of_pos kept]
          exact ih (recordAll_congr (events item) same)
      | false =>
          rw [List.filter_cons_of_neg (Bool.eq_false_iff.mp kept)]
          have untouched : recordAll rule (now item) right (events item) key = right key :=
            recordAll_of_notMem (foreign item kept)
          exact ih (same.trans untouched.symm)

theorem replay_filter {keep : τ → Bool}
    (foreign : ∀ item, keep item = false → ∀ event ∈ events item, key ≠ event.key)
    (history : List τ) :
    replay rule now events (history.filter keep) key = replay rule now events history key :=
  replayFrom_filter foreign history rfl

theorem replay_concat (early late : List τ) :
    replay rule now events (early ++ late) =
      replayFrom rule now events (replay rule now events early) late :=
  List.foldl_append

/-- Where a key only fails, and once in an item, its meter fails at the instants of these. -/
theorem replayFrom_eq_failAll (fails : τ → Bool) {history : List τ}
    (once : ∀ item, fails item = true → ∀ ledger,
      recordAll rule (now item) ledger (events item) key =
        (ledger key).fail (rule key) (now item))
    (silent : ∀ item ∈ history, fails item = false → ∀ event ∈ events item, key ≠ event.key) :
    replayFrom rule now events left history key =
      (left key).failAll (rule key) ((history.filter fails).map now) := by
  induction history generalizing left with
  | nil => rfl
  | cons item rest ih =>
      change replayFrom rule now events (recordAll rule (now item) left (events item)) rest key = _
      rw [ih fun other member => silent other (List.mem_cons_of_mem _ member)]
      cases failed : fails item with
      | true =>
          rw [List.filter_cons_of_pos failed, once item failed left]
          rfl
      | false =>
          rw [List.filter_cons_of_neg (Bool.eq_false_iff.mp failed),
            recordAll_of_notMem (silent item List.mem_cons_self failed)]

end Histories

end Ledgers

end Data
