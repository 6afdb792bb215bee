/-
When an open breaker may be probed.

`stateChangedAt` is both when the breaker opened and where its window began.  An
outcome that is recorded after the window is over moves it, and the wait for the
probe begins anew.
-/

import SelfService.Resilience.BreakerCounts
import SelfService.EventLoop.History

namespace SelfService

open EventLoop

/-- A call that had begun before the breaker opened comes to its end. -/
structure LateOutcome where
  now : Nat
  error : Option Exn

def LateOutcome.timed (outcome : LateOutcome) : TimedCall where
  now := outcome.now
  call :=
    match outcome.error with
    | none => .recordSuccess
    | some error => .recordFailure error

/-- A failure that is the caller's own is not counted. -/
def LateOutcome.counted (outcome : LateOutcome) : Bool :=
  outcome.error.all CircuitBreakerState.isInfrastructureError

namespace CircuitBreakerState

variable (breaker : CircuitBreakerState) (openedAt : Nat) (outcomes : List LateOutcome)

def record (outcomes : List LateOutcome) : CircuitBreakerState :=
  outcomes.foldl (fun breaker outcome => breaker.after outcome.timed) breaker

/-- The breaker at a time after it opened, with the outcomes recorded until then. -/
def openSince (now : Nat) : CircuitBreakerState :=
  (breaker.open openedAt).record (outcomes.filter fun outcome => outcome.now ≤ now)

def resetTimeout : Nat := orDefault breaker.options.resetTimeout 30000

/-- From the reset timeout on the breaker is due for a probe. -/
def Probeable : Prop :=
  ∀ now, openedAt + breaker.resetTimeout ≤ now →
    (breaker.openSince openedAt outcomes now).shouldAttemptReset now = true

/-- The outcome is counted when the window that began with the opening is over. -/
def outlives (outcome : LateOutcome) : Bool :=
  outcome.counted && openedAt + timeWindow breaker.options < outcome.now

/-! ### One outcome -/

variable {breaker : CircuitBreakerState} {outcome : LateOutcome}

theorem after_outcome (isOpen : breaker.state = .open) :
    (breaker.after outcome.timed).state = .open ∧
      (breaker.after outcome.timed).options = breaker.options ∧
      (breaker.after outcome.timed).stateChangedAt =
        if breaker.outlives breaker.stateChangedAt outcome then outcome.now
        else breaker.stateChangedAt := by
  have steady : breaker.state ≠ .halfOpen := by
    rw [isOpen]
    decide
  have rolls : breaker.rollsOver outcome.now =
      decide (breaker.stateChangedAt + timeWindow breaker.options < outcome.now) := by
    simp only [rollsOver, steady, ne_eq, not_false_eq_true, decide_true, Bool.true_and]
    congr 1
    exact propext ⟨by omega, by omega⟩
  obtain ⟨now, error⟩ := outcome
  cases error with
  | none =>
      simp only [LateOutcome.timed, after, recordSuccess_counts steady, rolls, outlives,
        LateOutcome.counted, Option.all_none, Bool.true_and]
      split
      · exact ⟨isOpen, rfl, rfl⟩
      · exact ⟨isOpen, rfl, rfl⟩
  | some error =>
      cases infra : isInfrastructureError error with
      | true =>
          simp only [LateOutcome.timed, after, recordFailure_counts infra steady, rolls, outlives,
            LateOutcome.counted, Option.all_some, infra, Bool.true_and]
          split
          · exact ⟨isOpen, rfl, rfl⟩
          · exact ⟨isOpen, rfl, rfl⟩
      | false =>
          simp only [LateOutcome.timed, after, recordFailure_filtered infra, outlives,
            LateOutcome.counted, Option.all_some, infra, Bool.false_and]
          exact ⟨isOpen, trivial, rfl⟩

/-! ### All outcomes -/

/-- Recording leaves an open breaker open, and never moves its opening back. -/
theorem record_open (isOpen : breaker.state = .open) (outcomes : List LateOutcome) :
    (breaker.record outcomes).state = .open ∧
      (breaker.record outcomes).options = breaker.options ∧
      breaker.stateChangedAt ≤ (breaker.record outcomes).stateChangedAt := by
  induction outcomes generalizing breaker with
  | nil => exact ⟨isOpen, rfl, Nat.le_refl _⟩
  | cons outcome rest ih =>
      obtain ⟨still, options, changed⟩ := @after_outcome breaker outcome isOpen
      obtain ⟨last, same, onwards⟩ := ih still
      refine ⟨last, same.trans options, le_trans ?_ onwards⟩
      rw [changed]
      split
      · rename_i outlives
        have late := of_decide_eq_true (Bool.and_eq_true_iff.mp outlives).2
        omega
      · exact Nat.le_refl _

/-- Outcomes within the window leave the opening where it was. -/
theorem record_within (isOpen : breaker.state = .open) {outcomes : List LateOutcome}
    (within : ∀ outcome ∈ outcomes, breaker.outlives breaker.stateChangedAt outcome = false) :
    (breaker.record outcomes).stateChangedAt = breaker.stateChangedAt := by
  induction outcomes generalizing breaker with
  | nil => rfl
  | cons outcome rest ih =>
      obtain ⟨still, options, changed⟩ := @after_outcome breaker outcome isOpen
      rw [within outcome List.mem_cons_self, if_neg Bool.false_ne_true] at changed
      refine (ih still ?_).trans changed
      intro other member
      have inside := within other (List.mem_cons_of_mem _ member)
      unfold outlives at inside ⊢
      rwa [changed, options]

theorem resetTimeout_pos (breaker : CircuitBreakerState) : 0 < breaker.resetTimeout := by
  unfold resetTimeout orDefault
  split <;> omega

/-- The wait for a probe is counted from where the opening was moved to. -/
theorem probe_iff (breaker : CircuitBreakerState) (openedAt : Nat) (outcomes : List LateOutcome)
    (now : Nat) : (breaker.openSince openedAt outcomes now).shouldAttemptReset now = true ↔
      breaker.resetTimeout ≤ now - (breaker.openSince openedAt outcomes now).stateChangedAt := by
  obtain ⟨still, options, -⟩ : (breaker.openSince openedAt outcomes now).state = .open ∧ _ :=
    record_open rfl _
  have same : (breaker.openSince openedAt outcomes now).options = breaker.options := options
  simp [shouldAttemptReset, resetTimeout, still, same]

/-- The first outcome after the window moves the opening to its own time. -/
theorem moved_by_first {openedAt now : Nat} {early rest : List LateOutcome} {first : LateOutcome}
    (moves : breaker.outlives openedAt first = true)
    (before : ∀ earlier ∈ early, breaker.outlives openedAt earlier = false)
    (reached : first.now ≤ now) :
    first.now ≤ (breaker.openSince openedAt (early ++ first :: rest) now).stateChangedAt := by
  have until_ : (early ++ first :: rest).filter (fun outcome => decide (outcome.now ≤ now)) =
      early.filter (fun outcome => decide (outcome.now ≤ now)) ++
        first :: rest.filter (fun outcome => decide (outcome.now ≤ now)) := by
    simp [List.filter_append, reached]
  rw [openSince, until_, record, List.foldl_append]
  have unmoved : ((breaker.open openedAt).record (early.filter fun outcome =>
      decide (outcome.now ≤ now))).stateChangedAt = openedAt :=
    record_within rfl fun outcome member => before outcome (List.mem_filter.mp member).1
  obtain ⟨still, options, -⟩ : ((breaker.open openedAt).record (early.filter fun outcome =>
      decide (outcome.now ≤ now))).state = .open ∧ _ := record_open rfl _
  obtain ⟨opened, -, changed⟩ := @after_outcome _ first still
  rw [unmoved, if_pos (by unfold outlives at moves ⊢; rwa [options])] at changed
  exact changed.ge.trans (record_open opened _).2.2

/-- An open breaker becomes due for a probe, and stays so, exactly if no outcome is counted
after the window that began with the opening is over. -/
theorem probeable_iff (breaker : CircuitBreakerState) (openedAt : Nat)
    (outcomes : List LateOutcome) :
    breaker.Probeable openedAt outcomes ↔
      ∀ outcome ∈ outcomes, breaker.outlives openedAt outcome = false := by
  constructor
  · intro probeable late member
    by_contra outlives
    rw [Bool.not_eq_false] at outlives
    obtain ⟨early, first, rest, rfl, moves, before, -, -⟩ := split_of_findIdx member outlives
    have past := of_decide_eq_true (Bool.and_eq_true_iff.mp moves).2
    have positive := breaker.resetTimeout_pos
    -- as soon as both the outcome and the reset timeout have come, the wait is not over
    have due := (probe_iff breaker openedAt _ _).mp
      (probeable (max first.now (openedAt + breaker.resetTimeout)) (le_max_right _ _))
    have moved := @moved_by_first breaker openedAt _ early rest first moves before
      (le_max_left first.now (openedAt + breaker.resetTimeout))
    omega
  · intro within now late
    have unmoved : (breaker.openSince openedAt outcomes now).stateChangedAt = openedAt :=
      record_within rfl fun outcome member => within outcome (List.mem_filter.mp member).1
    rw [probe_iff, unmoved]
    omega

/-- One late success a minute after the opening, and the breaker of a port stays open. -/
theorem late_success_delays_probe :
    ¬ Probeable (.new (portOptions 5) 0) 0 [⟨60001, none⟩] := by
  intro probeable
  have due := probeable 60001 (by decide)
  have closed_ : ((CircuitBreakerState.new (portOptions 5) 0).openSince 0 [⟨60001, none⟩]
      60001).shouldAttemptReset 60001 = false := by
    decide
  rw [closed_] at due
  cases due

end CircuitBreakerState

end SelfService
