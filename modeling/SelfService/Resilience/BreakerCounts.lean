/-
What a circuit breaker counts, against the outcomes of the current window.

`OutcomeWindow` keeps the outcomes themselves.  The counters of the breaker are
those of the window until a recording rolls the window over: then they fall back
to all that was counted since the last reset.
-/

import SelfService.Resilience.CircuitBreaker
import Mathlib.Algebra.Order.Field.Basic
import Mathlib.Tactic.Positivity
import Mathlib.Tactic.Linarith

namespace SelfService

/-! ### Properties of every prefix of a run -/

section Prefixes

variable {σ ε : Type} {step : σ → ε → σ} {Inv P : σ → Prop} {C : σ → ε → Prop} {start : σ}

theorem foldl_invariant (keeps : ∀ s event, Inv s → Inv (step s event)) (events : List ε)
    (hold : Inv start) : Inv (events.foldl step start) := by
  induction events generalizing start with
  | nil => exact hold
  | cons event rest ih => exact ih (keeps start event hold)

/-- Where a step keeps the property exactly under its condition, the property holds all along
a run exactly if every step meets its condition. -/
theorem prefixes_iff (keeps : ∀ s event, Inv s → Inv (step s event))
    (stepwise : ∀ s event, Inv s → P s → (P (step s event) ↔ C s event)) (hold : Inv start)
    (first : P start) (events : List ε) :
    (∀ early, early <+: events → P (early.foldl step start)) ↔
      ∀ early event, early ++ [event] <+: events → C (early.foldl step start) event := by
  constructor
  · intro always early event grown
    have past := always early ((List.prefix_append early [event]).trans grown)
    have now := always (early ++ [event]) grown
    rw [List.foldl_append] at now
    exact (stepwise _ event (foldl_invariant keeps early hold) past).mp now
  · intro met early
    induction early using List.reverseRecOn with
    | nil => exact fun _ => first
    | append_singleton early event ih =>
        intro grown
        have past := ih ((List.prefix_append early [event]).trans grown)
        rw [List.foldl_append]
        exact (stepwise _ event (foldl_invariant keeps early hold) past).mpr
          (met early event grown)

end Prefixes

/-! ### Calls -/

inductive BreakerCall : Type
  | recordSuccess
  | recordFailure (error : Exn)
  | open
  | close
  | halfOpen
  | reset

structure TimedCall where
  now : Nat
  call : BreakerCall

def CircuitBreakerState.after (breaker : CircuitBreakerState) (timed : TimedCall) :
    CircuitBreakerState :=
  match timed.call with
  | .recordSuccess => breaker.recordSuccess timed.now
  | .recordFailure error => breaker.recordFailure timed.now error
  | .open => breaker.open timed.now
  | .close => breaker.close timed.now
  | .halfOpen => breaker.halfOpen timed.now
  | .reset => breaker.reset timed.now

/-! ### The window -/

/-- The counted outcomes of a window, the failures as `true`.  `since` is where its length is
measured from. -/
structure OutcomeWindow where
  state : CircuitState
  since : Nat
  outcomes : List Bool

namespace OutcomeWindow

def requests (window : OutcomeWindow) : Nat := window.outcomes.length

def failures (window : OutcomeWindow) : Nat := window.outcomes.count true

@[simp] theorem requests_mk (state : CircuitState) (since : Nat) (outcomes : List Bool) :
    requests ⟨state, since, outcomes⟩ = outcomes.length := rfl

@[simp] theorem failures_mk (state : CircuitState) (since : Nat) (outcomes : List Bool) :
    failures ⟨state, since, outcomes⟩ = outcomes.count true := rfl

def empty (state : CircuitState) (now : Nat) : OutcomeWindow := ⟨state, now, []⟩

/-- An outcome that comes after the window is over is the first of the next one. -/
def record (timeWindow now : Nat) (failed : Bool) (window : OutcomeWindow) : OutcomeWindow :=
  if timeWindow < now - window.since then { window with since := now, outcomes := [failed] }
  else { window with outcomes := failed :: window.outcomes }

/-- Opening goes on with the outcomes that opened the breaker; every other move of the state
begins with none. -/
def after (timeWindow : Nat) (window : OutcomeWindow) (timed : TimedCall) : OutcomeWindow :=
  match timed.call with
  | .recordSuccess =>
      if window.state = .halfOpen then empty .closed timed.now
      else window.record timeWindow timed.now false
  | .recordFailure error =>
      if CircuitBreakerState.isInfrastructureError error then
        if window.state = .halfOpen then
          ⟨.open, timed.now, true :: window.outcomes⟩
        else window.record timeWindow timed.now true
      else window
  | .open => { window with state := .open, since := timed.now }
  | .close | .reset => empty .closed timed.now
  | .halfOpen => empty .halfOpen timed.now

/-- One to nine outcomes of a closed window, enough of them failures. -/
def ripeEarly (threshold : Nat) (window : OutcomeWindow) : Bool :=
  window.state = .closed && 0 < window.requests && window.requests < 10 &&
    threshold * window.requests ≤ 100 * window.failures

end OutcomeWindow

/-! ### What the counters should be -/

/-- The breaker counts the outcomes of the window, its rates are percentages, and a closed
breaker opens where its configuration says. -/
structure CountsWindow (breaker : CircuitBreakerState) (window : OutcomeWindow) : Prop where
  requests : breaker.requests = window.requests
  failures : breaker.failures = window.failures
  ordered : breaker.failures ≤ breaker.requests
  failureRate : 0 ≤ breaker.getMetrics.failureRate ∧ breaker.getMetrics.failureRate ≤ 100
  successRate : 0 ≤ breaker.getMetrics.successRate ∧ breaker.getMetrics.successRate ≤ 100
  opens : breaker.state = .closed → (breaker.shouldOpen = true ↔
    breaker.options.minRequests ≤ breaker.requests ∧ 0 < breaker.requests ∧
      breaker.options.errorThreshold * breaker.requests ≤ 100 * breaker.failures)

/-- The breaker beside the window. -/
abbrev Counted := CircuitBreakerState × OutcomeWindow

def timeWindow (options : CircuitBreakerOptions) : Nat := orDefault options.timeout 60000

def Counted.after (counted : Counted) (timed : TimedCall) : Counted :=
  (counted.1.after timed, counted.2.after (timeWindow counted.1.options) timed)

def Counted.new (options : CircuitBreakerOptions) (now : Nat) : Counted :=
  (.new options now, .empty .closed now)

/-- Whether recording an outcome now ends the window. -/
def CircuitBreakerState.rollsOver (breaker : CircuitBreakerState) (now : Nat) : Bool :=
  breaker.state ≠ .halfOpen && timeWindow breaker.options < now - breaker.stateChangedAt

/-- A recording that ends the window is the first success since the last reset, or a failure
after one success. -/
def rollsClean (breaker : CircuitBreakerState) (timed : TimedCall) : Bool :=
  match timed.call with
  | .recordSuccess =>
      !breaker.rollsOver timed.now || breaker.successCount = 0 && breaker.failureCount = 0
  | .recordFailure error =>
      !CircuitBreakerState.isInfrastructureError error || !breaker.rollsOver timed.now ||
        breaker.successCount = 1 && breaker.failureCount = 0
  | _ => true

/-- The call does not roll over what was counted before, and without a minimum of requests it
leaves no window that should open the breaker before ten outcomes. -/
def countsOn (counted : Counted) (timed : TimedCall) : Bool :=
  rollsClean counted.1 timed && (counted.1.options.minRequests ≠ 0 ||
    !(counted.2.after (timeWindow counted.1.options) timed).ripeEarly
      counted.1.options.errorThreshold)

/-! ### Rates -/

theorem percent_bounds {part whole : Nat} (ordered : part ≤ whole) (some_ : 0 < whole) :
    0 ≤ (part : Rat) / whole * 100 ∧ (part : Rat) / whole * 100 ≤ 100 := by
  have positive : (0 : Rat) < whole := Nat.cast_pos.mpr some_
  have below : (part : Rat) / whole ≤ 1 :=
    (div_le_one positive).mpr (Nat.cast_le.mpr ordered)
  constructor
  · positivity
  · linarith

theorem threshold_le_rate {threshold failures requests : Nat} (some_ : 0 < requests) :
    (threshold : Rat) ≤ (failures : Rat) / requests * 100 ↔
      threshold * requests ≤ 100 * failures := by
  have positive : (0 : Rat) < requests := Nat.cast_pos.mpr some_
  rw [div_mul_eq_mul_div, le_div_iff₀ positive, mul_comm (failures : Rat) 100]
  exact_mod_cast Iff.rfl

section Rates

variable {breaker : CircuitBreakerState}

theorem failureRate_bounds (ordered : breaker.failures ≤ breaker.requests) :
    0 ≤ breaker.getFailureRate ∧ breaker.getFailureRate ≤ 100 := by
  unfold CircuitBreakerState.getFailureRate
  split
  · constructor <;> norm_num
  · rename_i counted
    exact percent_bounds ordered (Nat.pos_of_ne_zero counted)

theorem successRate_bounds (ordered : breaker.failures ≤ breaker.requests) :
    0 ≤ breaker.getSuccessRate ∧ breaker.getSuccessRate ≤ 100 := by
  unfold CircuitBreakerState.getSuccessRate
  split
  · constructor <;> norm_num
  · rename_i counted
    rw [← Nat.cast_sub ordered]
    exact percent_bounds (Nat.sub_le _ _) (Nat.pos_of_ne_zero counted)

theorem shouldOpen_iff (positive : 0 < breaker.options.errorThreshold) :
    breaker.shouldOpen = true ↔ breaker.state ≠ .open ∧
      orDefault breaker.options.minRequests 10 ≤ breaker.requests ∧
        breaker.options.errorThreshold * breaker.requests ≤ 100 * breaker.failures := by
  have threshold : orDefault breaker.options.errorThreshold 50 = breaker.options.errorThreshold :=
    if_neg (Nat.pos_iff_ne_zero.mp positive)
  have minimum : 0 < orDefault breaker.options.minRequests 10 := by
    unfold orDefault
    split <;> omega
  simp only [CircuitBreakerState.shouldOpen, threshold, Bool.and_eq_true, decide_eq_true_eq,
    and_assoc]
  apply and_congr_right
  intro _
  apply and_congr_right
  intro enough
  have counted : 0 < breaker.requests := minimum.trans_le enough
  rw [CircuitBreakerState.getFailureRate, if_neg (Nat.pos_iff_ne_zero.mp counted)]
  exact threshold_le_rate counted

end Rates

/-! ### One recording -/

section Recording

variable {breaker : CircuitBreakerState} {now : Nat}

theorem cleanup_now (changed : breaker.stateChangedAt = now) :
    breaker.cleanupOldRequests now = breaker := by
  have short : ¬ timeWindow breaker.options < now - breaker.stateChangedAt := by
    rw [changed, Nat.sub_self]
    exact Nat.not_lt_zero _
  exact if_neg short

/-- A success on trial closes the breaker, and is not counted after that. -/
theorem recordSuccess_halfOpen (trial : breaker.state = .halfOpen) :
    breaker.recordSuccess now = breaker.close now := by
  simp only [CircuitBreakerState.recordSuccess, if_pos trial]
  exact cleanup_now rfl

theorem recordSuccess_counts (steady : breaker.state ≠ .halfOpen) :
    breaker.recordSuccess now =
      if breaker.rollsOver now then
        { breaker with
          requests := breaker.successCount + 1
          failures := breaker.failureCount
          successCount := breaker.successCount + 1
          stateChangedAt := now }
      else
        { breaker with
          requests := breaker.requests + 1
          successCount := breaker.successCount + 1 } := by
  by_cases rolled : orDefault breaker.options.timeout 60000 < now - breaker.stateChangedAt
  · simp [CircuitBreakerState.recordSuccess, steady, CircuitBreakerState.rollsOver,
      CircuitBreakerState.cleanupOldRequests, timeWindow, rolled]
  · simp [CircuitBreakerState.recordSuccess, steady, CircuitBreakerState.rollsOver,
      CircuitBreakerState.cleanupOldRequests, timeWindow, rolled]

/-- A failure on trial is counted, and opens the breaker. -/
theorem recordFailure_halfOpen {error : Exn}
    (infra : CircuitBreakerState.isInfrastructureError error = true)
    (trial : breaker.state = .halfOpen) :
    breaker.recordFailure now error =
      { breaker with
        state := .open
        stateChangedAt := now
        requests := breaker.requests + 1
        failures := breaker.failures + 1
        failureCount := breaker.failureCount + 1
        lastFailureTime := now } := by
  simp only [CircuitBreakerState.recordFailure, infra, if_true, if_pos trial]
  exact cleanup_now rfl

theorem recordFailure_counts {error : Exn}
    (infra : CircuitBreakerState.isInfrastructureError error = true)
    (steady : breaker.state ≠ .halfOpen) :
    breaker.recordFailure now error =
      if breaker.rollsOver now then
        { breaker with
          requests := breaker.successCount
          failures := breaker.failureCount + 1
          failureCount := breaker.failureCount + 1
          lastFailureTime := now
          stateChangedAt := now }
      else
        { breaker with
          requests := breaker.requests + 1
          failures := breaker.failures + 1
          failureCount := breaker.failureCount + 1
          lastFailureTime := now } := by
  by_cases rolled : orDefault breaker.options.timeout 60000 < now - breaker.stateChangedAt
  · simp [CircuitBreakerState.recordFailure, infra, steady, CircuitBreakerState.rollsOver,
      CircuitBreakerState.cleanupOldRequests, timeWindow, rolled]
  · simp [CircuitBreakerState.recordFailure, infra, steady, CircuitBreakerState.rollsOver,
      CircuitBreakerState.cleanupOldRequests, timeWindow, rolled]

theorem recordFailure_filtered {error : Exn}
    (caller : CircuitBreakerState.isInfrastructureError error = false) :
    breaker.recordFailure now error = breaker := by
  simp only [CircuitBreakerState.recordFailure, caller, Bool.false_eq_true, if_false]

end Recording

/-! ### One call -/

theorem OutcomeWindow.ordered (window : OutcomeWindow) : window.failures ≤ window.requests :=
  List.count_le_length

/-- The breaker and the window agree on what state it is and since when. -/
structure Tracks (options : CircuitBreakerOptions) (counted : Counted) : Prop where
  options : counted.1.options = options
  state : counted.1.state = counted.2.state
  since : counted.1.stateChangedAt = counted.2.since

/-- The counters are those of the window. -/
def SameCounts (counted : Counted) : Prop :=
  counted.1.requests = counted.2.requests ∧ counted.1.failures = counted.2.failures

theorem ripeEarly_iff {breaker : CircuitBreakerState} {window : OutcomeWindow} {threshold : Nat}
    (state : breaker.state = window.state) (same : SameCounts (breaker, window)) :
    window.ripeEarly threshold = true ↔ breaker.state = .closed ∧ 0 < breaker.requests ∧
      breaker.requests < 10 ∧ threshold * breaker.requests ≤ 100 * breaker.failures := by
  obtain ⟨requests, failures⟩ := same
  simp only at requests failures
  rw [state, requests, failures, OutcomeWindow.ripeEarly]
  simp only [Bool.and_eq_true, decide_eq_true_eq, and_assoc]

/-- Without a minimum of requests the code waits for ten. -/
theorem opens_iff {breaker : CircuitBreakerState} {window : OutcomeWindow}
    (positive : 0 < breaker.options.errorThreshold) (state : breaker.state = window.state)
    (same : SameCounts (breaker, window)) :
    (breaker.state = .closed → (breaker.shouldOpen = true ↔
      breaker.options.minRequests ≤ breaker.requests ∧ 0 < breaker.requests ∧
        breaker.options.errorThreshold * breaker.requests ≤ 100 * breaker.failures)) ↔
      (breaker.options.minRequests ≠ 0 ∨
        window.ripeEarly breaker.options.errorThreshold = false) := by
  rw [← Bool.not_eq_true, ripeEarly_iff state same, shouldOpen_iff positive]
  by_cases none_ : breaker.options.minRequests = 0
  · have minimum : orDefault breaker.options.minRequests 10 = 10 := if_pos none_
    rw [minimum, none_]
    constructor
    · intro opens
      right
      rintro ⟨closed, counted, few, rolled⟩
      have enough := ((opens closed).mpr ⟨Nat.zero_le _, counted, rolled⟩).2.1
      omega
    · intro unripe closed
      have unripe := unripe.resolve_left (fun absurd_ => absurd_ rfl)
      constructor
      · rintro ⟨-, enough, rolled⟩
        exact ⟨Nat.zero_le _, by omega, rolled⟩
      · rintro ⟨-, counted, rolled⟩
        refine ⟨by rw [closed]; decide, ?_, rolled⟩
        by_contra few
        exact unripe ⟨closed, counted, Nat.lt_of_not_le few, rolled⟩
  · have minimum : orDefault breaker.options.minRequests 10 = breaker.options.minRequests :=
      if_neg none_
    rw [minimum]
    constructor
    · exact fun _ => Or.inl none_
    · intro _ closed
      constructor
      · rintro ⟨-, enough, rolled⟩
        exact ⟨enough, (Nat.pos_of_ne_zero none_).trans_le enough, rolled⟩
      · rintro ⟨enough, -, rolled⟩
        exact ⟨by rw [closed]; decide, enough, rolled⟩

theorem countsWindow_iff {breaker : CircuitBreakerState} {window : OutcomeWindow}
    (positive : 0 < breaker.options.errorThreshold) (state : breaker.state = window.state) :
    CountsWindow breaker window ↔ SameCounts (breaker, window) ∧
      (breaker.options.minRequests ≠ 0 ∨
        window.ripeEarly breaker.options.errorThreshold = false) := by
  constructor
  · intro counts
    have same : SameCounts (breaker, window) := ⟨counts.requests, counts.failures⟩
    exact ⟨same, (opens_iff positive state same).mp counts.opens⟩
  · rintro ⟨same, clean⟩
    have ordered : breaker.failures ≤ breaker.requests := by
      rw [same.1, same.2]
      exact window.ordered
    exact {
      requests := same.1
      failures := same.2
      ordered := ordered
      failureRate := failureRate_bounds ordered
      successRate := successRate_bounds ordered
      opens := (opens_iff positive state same).mpr clean }

theorem rolls_iff {breaker : CircuitBreakerState} {window : OutcomeWindow} {now : Nat}
    (steady : breaker.state ≠ .halfOpen) (since : breaker.stateChangedAt = window.since) :
    breaker.rollsOver now = true ↔ timeWindow breaker.options < now - window.since := by
  rw [CircuitBreakerState.rollsOver, decide_eq_true steady, Bool.true_and, decide_eq_true_eq, since]

section Step

variable {options : CircuitBreakerOptions} {counted : Counted} {timed : TimedCall}

theorem tracks_after (tracks : Tracks options counted) : Tracks options (counted.after timed) := by
  obtain ⟨breaker, window⟩ := counted
  obtain ⟨now, call⟩ := timed
  obtain ⟨rfl, state, since⟩ := tracks
  simp only at state since
  cases call with
  | recordSuccess =>
      by_cases trial : breaker.state = .halfOpen
      · simp only [Counted.after, CircuitBreakerState.after, OutcomeWindow.after,
          recordSuccess_halfOpen trial, if_pos (state.symm.trans trial)]
        exact ⟨rfl, rfl, rfl⟩
      · have steady : window.state ≠ .halfOpen := fun same => trial (state.trans same)
        simp only [Counted.after, CircuitBreakerState.after, OutcomeWindow.after,
          recordSuccess_counts trial, if_neg steady, rolls_iff trial since, OutcomeWindow.record]
        split
        · exact ⟨rfl, state, rfl⟩
        · exact ⟨rfl, state, since⟩
  | recordFailure error =>
      cases infra : CircuitBreakerState.isInfrastructureError error with
      | false =>
          simp only [Counted.after, CircuitBreakerState.after, OutcomeWindow.after,
            recordFailure_filtered infra, infra, Bool.false_eq_true, if_false]
          exact ⟨rfl, state, since⟩
      | true =>
          by_cases trial : breaker.state = .halfOpen
          · simp only [Counted.after, CircuitBreakerState.after, OutcomeWindow.after,
              recordFailure_halfOpen infra trial, infra, if_true, if_pos (state.symm.trans trial)]
            exact ⟨rfl, rfl, rfl⟩
          · have steady : window.state ≠ .halfOpen := fun same => trial (state.trans same)
            simp only [Counted.after, CircuitBreakerState.after, OutcomeWindow.after,
              recordFailure_counts infra trial, infra, if_true, if_neg steady,
              rolls_iff trial since, OutcomeWindow.record]
            split
            · exact ⟨rfl, state, rfl⟩
            · exact ⟨rfl, state, since⟩
  | «open» => exact ⟨rfl, rfl, rfl⟩
  | close => exact ⟨rfl, rfl, rfl⟩
  | halfOpen => exact ⟨rfl, rfl, rfl⟩
  | reset => exact ⟨rfl, rfl, rfl⟩

/-- A call keeps the counters right exactly if it does not roll rolled what it should not. -/
theorem sameCounts_after (tracks : Tracks options counted) (same : SameCounts counted) :
    SameCounts (counted.after timed) ↔ rollsClean counted.1 timed = true := by
  obtain ⟨breaker, window⟩ := counted
  obtain ⟨now, call⟩ := timed
  obtain ⟨rfl, state, since⟩ := tracks
  obtain ⟨requests, failures⟩ := same
  simp only at state since requests failures
  have kept : SameCounts (breaker, window) := ⟨requests, failures⟩
  cases call with
  | recordSuccess =>
      by_cases trial : breaker.state = .halfOpen
      · simp only [Counted.after, CircuitBreakerState.after, OutcomeWindow.after,
          recordSuccess_halfOpen trial, if_pos (state.symm.trans trial)]
        simp [SameCounts, rollsClean, CircuitBreakerState.rollsOver, trial,
          CircuitBreakerState.close, CircuitBreakerState.resetMetrics, OutcomeWindow.empty]
      · have steady : window.state ≠ .halfOpen := fun same => trial (state.trans same)
        simp only [Counted.after, CircuitBreakerState.after, OutcomeWindow.after,
          recordSuccess_counts trial, if_neg steady, OutcomeWindow.record, rollsClean]
        by_cases rolls : breaker.rollsOver now = true
        · rw [if_pos rolls, if_pos ((rolls_iff trial since).mp rolls)]
          simp [SameCounts, rolls]
        · rw [if_neg rolls, if_neg fun rolled => rolls ((rolls_iff trial since).mpr rolled)]
          simp [SameCounts, rolls, requests, failures, OutcomeWindow.requests, OutcomeWindow.failures]
  | recordFailure error =>
      cases infra : CircuitBreakerState.isInfrastructureError error with
      | false =>
          simp only [Counted.after, CircuitBreakerState.after, OutcomeWindow.after,
            recordFailure_filtered infra, infra, Bool.false_eq_true, if_false, rollsClean]
          simp [kept]
      | true =>
          by_cases trial : breaker.state = .halfOpen
          · simp only [Counted.after, CircuitBreakerState.after, OutcomeWindow.after,
              recordFailure_halfOpen infra trial, infra, if_true, if_pos (state.symm.trans trial)]
            simp [SameCounts, rollsClean, CircuitBreakerState.rollsOver, trial, requests, failures,
              OutcomeWindow.requests, OutcomeWindow.failures]
          · have steady : window.state ≠ .halfOpen := fun same => trial (state.trans same)
            simp only [Counted.after, CircuitBreakerState.after, OutcomeWindow.after,
              recordFailure_counts infra trial, infra, if_true, if_neg steady,
              OutcomeWindow.record, rollsClean]
            by_cases rolls : breaker.rollsOver now = true
            · rw [if_pos rolls, if_pos ((rolls_iff trial since).mp rolls)]
              simp [SameCounts, rolls]
            · rw [if_neg rolls, if_neg fun rolled => rolls ((rolls_iff trial since).mpr rolled)]
              simp [SameCounts, rolls, requests, failures, OutcomeWindow.requests,
                OutcomeWindow.failures]
  | «open» => exact iff_of_true kept rfl
  | close => exact iff_of_true ⟨rfl, rfl⟩ rfl
  | halfOpen => exact iff_of_true ⟨rfl, rfl⟩ rfl
  | reset => exact iff_of_true ⟨rfl, rfl⟩ rfl

end Step

/-! ### Runs -/

def portOptions (minRequests : Nat) : CircuitBreakerOptions := ⟨50, 10000, minRequests, 0, "invoice"⟩

def timeoutError : Exn := .portTimeout "invoice" 3000

/-- Two failures and a success within a minute. -/
def steadyCalls : List TimedCall :=
  [⟨0, .recordSuccess⟩, ⟨1000, .recordFailure timeoutError⟩, ⟨2000, .recordFailure timeoutError⟩]

/-- The same with a third failure after the minute. -/
def lateCalls : List TimedCall := steadyCalls ++ [⟨60001, .recordFailure timeoutError⟩]

end SelfService
