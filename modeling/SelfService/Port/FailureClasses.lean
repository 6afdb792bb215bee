/-
Which adapter errors a breaker counts.

The filter looks at one exception class and one number.  It counts what is an
infrastructure problem except where an adapter speaks of an unreachable host by
the status 0, or of a missing record by an exception of the core library.
-/

import SelfService.EventLoop.Play
import SelfService.Port.BreakerGate
import SelfService.Resilience.BreakerCounts

namespace SelfService

open Data EventLoop PortRegistry

/-! ### Classes of errors -/

/-- A timeout, an unreachable host (which adapters report as status 0), an answer of 500 and
above, as a malformed body is, or an error nobody knows. -/
def Exn.isInfrastructureProblem : Exn → Bool
  | .portDownstream _ statusCode _ _ => statusCode = 0 || 500 ≤ statusCode
  | .base .notFound _ _ _ | .base .validation _ _ _ => false
  | _ => true

/-- The error is none that the filter takes for the other kind. -/
def Exn.isPlain : Exn → Bool
  | .portDownstream _ statusCode _ _ => statusCode ≠ 0
  | .base .notFound _ _ _ | .base .validation _ _ _ => false
  | _ => true

def isProblem : Except Exn JsValue → Bool
  | .ok _ => false
  | .error error => error.isInfrastructureProblem

def isPlain : Except Exn JsValue → Bool
  | .ok _ => true
  | .error error => error.isPlain

theorem filter_right_iff (error : Exn) :
    (CircuitBreakerState.isInfrastructureError error = true ↔
      error.isInfrastructureProblem = true) ↔ error.isPlain = true := by
  cases error with
  | portDownstream portName statusCode statusText url =>
      simp only [CircuitBreakerState.isInfrastructureError, Exn.isInfrastructureProblem, Exn.isPlain,
        Bool.or_eq_true, decide_eq_true_eq]
      omega
  | base kind message code details =>
      cases kind <;> simp [CircuitBreakerState.isInfrastructureError,
        Exn.isInfrastructureProblem, Exn.isPlain]
  | _ => exact iff_of_true Iff.rfl rfl

theorem not_problem_of_caller {error : Exn} (caller : error.isCallerError = true) :
    error.isInfrastructureProblem = false := by
  cases error with
  | portDownstream portName statusCode statusText url =>
      simp only [Exn.isCallerError, Bool.and_eq_true, decide_eq_true_eq] at caller
      simp only [Exn.isInfrastructureProblem, Bool.or_eq_false_iff, decide_eq_false_iff_not]
      omega
  | base kind message code details => cases kind <;> first | rfl | cases caller
  | _ => cases caller

/-! ### What a breaker is told -/

/-- What `execute` does to the breaker when its adapter has settled. -/
def CircuitBreakerState.told (now : Nat) (outcome : Except Exn JsValue)
    (breaker : CircuitBreakerState) : CircuitBreakerState :=
  match outcome with
  | .ok _ => breaker.recordSuccess now
  | .error error =>
      let recorded := breaker.recordFailure now error
      if recorded.shouldOpen then recorded.open now else recorded

theorem noteOutcome_eq (portName : String) (outcome : Except Exn JsValue)
    (world : World registryOnly) :
    noteOutcome portName outcome world =
      setBreaker portName (CircuitBreakerState.told world.now outcome) world := by
  cases outcome with
  | ok data => rfl
  | error error => rfl

def CountsFailure (before after : CircuitBreakerState) : Prop :=
  after.failureCount = before.failureCount + 1

section Told

variable {breaker : CircuitBreakerState} {now : Nat} {error : Exn}

theorem failureCount_success : (breaker.recordSuccess now).failureCount ≤ breaker.failureCount := by
  by_cases trial : breaker.state = .halfOpen
  · rw [recordSuccess_halfOpen trial]
    exact Nat.zero_le _
  · rw [recordSuccess_counts trial]
    split <;> exact le_refl _

theorem failureCount_failure :
    (breaker.recordFailure now error).failureCount =
      if CircuitBreakerState.isInfrastructureError error then breaker.failureCount + 1
      else breaker.failureCount := by
  cases infra : CircuitBreakerState.isInfrastructureError error with
  | false => rw [recordFailure_filtered infra, if_neg Bool.false_ne_true]
  | true =>
      by_cases trial : breaker.state = .halfOpen
      · rw [recordFailure_halfOpen infra trial, if_pos rfl]
      · rw [recordFailure_counts infra trial, if_pos rfl]
        split <;> rfl

theorem countsFailure_told (outcome : Except Exn JsValue) :
    CountsFailure breaker (breaker.told now outcome) ↔
      ∃ error, outcome = .error error ∧
        CircuitBreakerState.isInfrastructureError error = true := by
  cases outcome with
  | ok data =>
      have below : (breaker.recordSuccess now).failureCount ≤ breaker.failureCount :=
        failureCount_success
      constructor
      · intro (counts : (breaker.recordSuccess now).failureCount = breaker.failureCount + 1)
        omega
      · rintro ⟨error, same, -⟩
        cases same
  | error error =>
      have told : (breaker.told now (.error error)).failureCount =
          (breaker.recordFailure now error).failureCount := by
        unfold CircuitBreakerState.told
        dsimp only
        split <;> rfl
      unfold CountsFailure
      rw [told, failureCount_failure]
      cases infra : CircuitBreakerState.isInfrastructureError error with
      | false =>
          constructor
          · intro counts
            rw [if_neg Bool.false_ne_true] at counts
            omega
          · rintro ⟨other, same, counted⟩
            cases same
            cases infra.symm.trans counted
      | true => exact iff_of_true (if_pos rfl) ⟨error, rfl, infra⟩

/-- A breaker counts an outcome as it should exactly if the outcome is plain. -/
theorem counts_right_iff (outcome : Except Exn JsValue) :
    (CountsFailure breaker (breaker.told now outcome) ↔ isProblem outcome = true) ↔
      isPlain outcome = true := by
  rw [countsFailure_told]
  cases outcome with
  | ok data =>
      refine iff_of_true ?_ rfl
      constructor
      · rintro ⟨error, same, -⟩
        cases same
      · intro wrong
        cases wrong
  | error error =>
      rw [isPlain, ← filter_right_iff]
      apply Iff.of_eq
      congr 1
      apply propext
      constructor
      · rintro ⟨other, same, counted⟩
        cases same
        exact counted
      · exact fun counted => ⟨error, rfl, counted⟩

end Told

/-! ### The same error again and again -/

section Repeated

variable {options : CircuitBreakerOptions} {now : Nat} {error : Exn}

/-- A breaker that was told the same error so many times since it was made. -/
def toldTimes (options : CircuitBreakerOptions) (now : Nat) (error : Exn) (times : Nat) :
    CircuitBreakerState :=
  (CircuitBreakerState.told now (.error error))^[times] (.new options now)

theorem toldTimes_succ (times : Nat) : toldTimes options now error (times + 1) =
    (toldTimes options now error times).told now (.error error) :=
  Function.iterate_succ_apply' _ _ _

theorem shouldOpen_new : (CircuitBreakerState.new options now).shouldOpen = false := by
  have minimum : ¬ orDefault options.minRequests 10 ≤ 0 := by
    unfold orDefault
    split <;> omega
  simp [CircuitBreakerState.shouldOpen, CircuitBreakerState.new, minimum]

/-- Told errors that the filter leaves out, a new breaker stays as it is. -/
theorem told_filtered (filtered : CircuitBreakerState.isInfrastructureError error = false)
    (moment : Nat) :
    (CircuitBreakerState.new options now).told moment (.error error) = .new options now := by
  unfold CircuitBreakerState.told
  simp only [recordFailure_filtered filtered, shouldOpen_new, Bool.false_eq_true, if_false]

theorem toldTimes_filtered (filtered : CircuitBreakerState.isInfrastructureError error = false)
    (times : Nat) : toldTimes options now error times = .new options now := by
  induction times with
  | zero => rfl
  | succ times ih => rw [toldTimes_succ, ih, told_filtered filtered]

/-- So far every request has failed, within one moment. -/
structure AllFailed (options : CircuitBreakerOptions) (now times : Nat)
    (breaker : CircuitBreakerState) : Prop where
  options : breaker.options = options
  state : breaker.state = .closed
  since : breaker.stateChangedAt = now
  requests : breaker.requests = times
  failures : breaker.failures = times

theorem AllFailed.recorded {times : Nat} {breaker : CircuitBreakerState}
    (counted : CircuitBreakerState.isInfrastructureError error = true)
    (all : AllFailed options now times breaker) :
    AllFailed options now (times + 1) (breaker.recordFailure now error) := by
  have steady : breaker.state ≠ .halfOpen := by
    rw [all.state]
    decide
  have within : ¬ breaker.rollsOver now = true := by
    let window : OutcomeWindow := ⟨breaker.state, now, []⟩
    have since : breaker.stateChangedAt = window.since := all.since
    rw [rolls_iff steady since, Nat.sub_self]
    exact Nat.not_lt_zero _
  rw [recordFailure_counts counted steady, if_neg within]
  exact ⟨all.options, all.state, all.since, congrArg (· + 1) all.requests,
    congrArg (· + 1) all.failures⟩

theorem AllFailed.shouldOpen_iff {times : Nat} {breaker : CircuitBreakerState}
    (all : AllFailed options now times breaker) (positive : 0 < options.errorThreshold)
    (percent : options.errorThreshold ≤ 100) :
    breaker.shouldOpen = true ↔ orDefault options.minRequests 10 ≤ times := by
  have threshold : 0 < breaker.options.errorThreshold := all.options ▸ positive
  rw [SelfService.shouldOpen_iff threshold, all.options, all.state, all.requests, all.failures]
  constructor
  · exact fun ⟨_, enough, _⟩ => enough
  · exact fun enough => ⟨by decide, enough, Nat.mul_le_mul_right _ percent⟩

theorem toldTimes_counted (counted : CircuitBreakerState.isInfrastructureError error = true)
    (positive : 0 < options.errorThreshold) (percent : options.errorThreshold ≤ 100) (times : Nat)
    (few : times < orDefault options.minRequests 10) :
    AllFailed options now times (toldTimes options now error times) := by
  induction times with
  | zero => exact ⟨rfl, rfl, rfl, rfl, rfl⟩
  | succ times ih =>
      have later := (ih (Nat.lt_of_succ_lt few)).recorded counted
      have patient : ((toldTimes options now error times).recordFailure now error).shouldOpen = false :=
        Bool.eq_false_iff.mpr fun opens =>
          absurd ((later.shouldOpen_iff positive percent).mp opens) (Nat.not_le_of_lt few)
      rw [toldTimes_succ]
      unfold CircuitBreakerState.told
      simp only [patient, Bool.false_eq_true, if_false]
      exact later

/-- An error opens a new breaker in the end exactly if the filter counts it. -/
theorem opens_in_the_end_iff (positive : 0 < options.errorThreshold)
    (percent : options.errorThreshold ≤ 100) :
    (∃ times, (toldTimes options now error times).state = .open) ↔
      CircuitBreakerState.isInfrastructureError error = true := by
  constructor
  · rintro ⟨times, opened⟩
    by_contra filtered
    rw [toldTimes_filtered (Bool.eq_false_iff.mpr filtered)] at opened
    cases opened
  · intro counted
    obtain ⟨times, minimum⟩ : ∃ times, orDefault options.minRequests 10 = times + 1 := by
      apply Nat.exists_eq_add_one.mpr
      unfold orDefault
      split <;> omega
    have all : AllFailed options now times (toldTimes options now error times) :=
      toldTimes_counted counted positive percent times (by omega)
    have opens := (all.recorded counted).shouldOpen_iff positive percent
    refine ⟨times + 1, ?_⟩
    rw [toldTimes_succ]
    unfold CircuitBreakerState.told
    simp only [opens.mpr (Nat.le_of_eq minimum), if_true]
    rfl

/-- Whatever requests a caller gets wrong, a new breaker stays closed where the errors are
plain. -/
theorem stays_closed (outcomes : List (Nat × Exn))
    (plain : ∀ outcome ∈ outcomes, outcome.2.isCallerError = true ∧ outcome.2.isPlain = true) :
    (outcomes.foldl (fun breaker outcome => breaker.told outcome.1 (.error outcome.2))
      (CircuitBreakerState.new options now)).state = .closed := by
  induction outcomes with
  | nil => rfl
  | cons outcome rest ih =>
      obtain ⟨caller, shown⟩ := plain outcome List.mem_cons_self
      have filtered : CircuitBreakerState.isInfrastructureError outcome.2 = false := by
        apply Bool.eq_false_iff.mpr
        intro counted
        have problem := ((filter_right_iff outcome.2).mpr shown).mp counted
        cases problem.symm.trans (not_problem_of_caller caller)
      rw [List.foldl_cons, told_filtered filtered]
      exact ih fun other member => plain other (List.mem_cons_of_mem _ member)

end Repeated

/-! ### In a run -/

section Runs

variable {wiring : Wiring} {world : World registryOnly}
  {p next : Pool (portSignature registryOnly) Resolution} {tid : Nat} {i : Invocation}

/-- The turn after the adapter has settled tells the port's breaker, and no other. -/
theorem breaker_told (reached : Reachable wiring.registry world p)
    {task : PortTask registryOnly Resolution}
    (found : p.threads[tid]? = some (.running (.inl (.execute i)) task))
    (ready : ∀ request rest, task ≠ .await request rest)
    (stepped : p.step wiring.registry (.resume tid) = some next) {outcome : Except Exn JsValue}
    (told : arrived (ownEntries tid p.snapshot.trace) = some outcome) :
    next.snapshot.state.circuitBreakers =
      (noteOutcome i.portName outcome p.snapshot.state).circuitBreakers := by
  obtain ⟨stop, last, stopped, obeyed⟩ := reached.turn (gate_lawful wiring) found ready stepped
  have obeyed : GateLaw i (p.snapshot.own tid) stop (last.own tid) := obeyed
  have breakers : toldBreakers i.portName (p.snapshot.own tid) =
      (noteOutcome i.portName outcome p.snapshot.state).circuitBreakers := by
    rw [toldBreakers, show arrived (p.snapshot.own tid).trace = some outcome from told]
    rfl
  rw [stopped.state_eq, ← breakers]
  change (last.own tid).state.circuitBreakers = _
  rw [obeyed.breakers]
  unfold breakersAfter
  split
  · obtain ⟨-, -, undecided⟩ := obeyed.starts _ _ _ _ rfl
    cases told.symm.trans undecided.unanswered.silent
  · rfl

theorem setBreaker_get? {portName : String} {before : CircuitBreakerState}
    (change : CircuitBreakerState → CircuitBreakerState) {world : World registryOnly}
    (there : world.circuitBreakers.get? portName = some before) :
    (setBreaker portName change world).circuitBreakers.get? portName = some (change before) := by
  unfold setBreaker
  rw [there]
  exact OrderedMap.get?_set_self _ _ _

/-- In every run a port's breaker counts an outcome as it should exactly if the outcome is
plain.  So an error that comes again and again opens a new breaker exactly if it should, and
plain mistakes of callers never open one. -/
theorem failures_classified_iff (reached : Reachable wiring.registry world p)
    {task : PortTask registryOnly Resolution}
    (found : p.threads[tid]? = some (.running (.inl (.execute i)) task))
    (ready : ∀ request rest, task ≠ .await request rest)
    (stepped : p.step wiring.registry (.resume tid) = some next) {outcome : Except Exn JsValue}
    (told : arrived (ownEntries tid p.snapshot.trace) = some outcome)
    {before : CircuitBreakerState}
    (there : p.snapshot.state.circuitBreakers.get? i.portName = some before)
    {options : CircuitBreakerOptions} (positive : 0 < options.errorThreshold)
    (percent : options.errorThreshold ≤ 100) (now : Nat) :
    (∃ after, next.snapshot.state.circuitBreakers.get? i.portName = some after ∧
        ((CountsFailure before after ↔ isProblem outcome = true) ↔ isPlain outcome = true)) ∧
      (∀ error : Exn, ((∃ times, (toldTimes options now error times).state = .open) ↔
        error.isInfrastructureProblem = true) ↔ error.isPlain = true) ∧
      ∀ outcomes : List (Nat × Exn),
        (∀ outcome ∈ outcomes, outcome.2.isCallerError = true ∧ outcome.2.isPlain = true) →
        (outcomes.foldl (fun breaker outcome => breaker.told outcome.1 (.error outcome.2))
          (CircuitBreakerState.new options now)).state = .closed := by
  refine ⟨?_, ?_, fun outcomes plain => stays_closed outcomes plain⟩
  · refine ⟨before.told p.snapshot.state.now outcome, ?_, counts_right_iff outcome⟩
    rw [breaker_told reached found ready stepped told, noteOutcome_eq]
    exact setBreaker_get? _ there
  · intro error
    rw [opens_in_the_end_iff positive percent]
    exact filter_right_iff error

end Runs

/-! ### A payment that times out -/

/-- The port of payments is registered. -/
def payingWorld : World registryOnly :=
  registerAll ["payment"] (bareWorld 1700000000000 .empty apiEndpoints ())

/-- A payment waits for its adapter. -/
def chargeAsked : Pool (portSignature registryOnly) Resolution :=
  ((Pool.initial payingWorld).run gateWiring.registry
    [.call (.inl (.execute openCharge)), .resume 0]).getD (Pool.initial payingWorld)

/-- Its adapter times out. -/
def chargeTimedOut : Pool (portSignature registryOnly) Resolution :=
  (chargeAsked.step gateWiring.registry
    (.answer 0 (.inl (.adapter ⟨"payment", .mock⟩ none "create-payment" (.obj [])))
      (.error (.portTimeout "payment" 5000) : Except Exn JsValue))).getD chargeAsked

def chargeFailed : Pool (portSignature registryOnly) Resolution :=
  (chargeTimedOut.step gateWiring.registry (.resume 0)).getD chargeTimedOut

theorem failures_classified_iff_timeout :
    ∃ after, chargeFailed.snapshot.state.circuitBreakers.get? "payment" = some after ∧
      CountsFailure (.new (breakerOptions "payment" (some ⟨30, 30000, 3⟩)) 1700000000000) after := by
  have asked : Reachable gateWiring.registry payingWorld chargeAsked :=
    ⟨[.call (.inl (.execute openCharge)), .resume 0], rfl⟩
  have answered : chargeAsked.step gateWiring.registry
      (.answer 0 (.inl (.adapter ⟨"payment", .mock⟩ none "create-payment" (.obj [])))
        (.error (.portTimeout "payment" 5000) : Except Exn JsValue)) = some chargeTimedOut := rfl
  have positive : 0 < (breakerOptions "payment" none).errorThreshold := by decide
  have found : chargeTimedOut.threads[0]? =
    some (.running (.inl (.execute openCharge)) _) := rfl
  have stepped : chargeTimedOut.step gateWiring.registry (.resume 0) = some chargeFailed := rfl
  obtain ⟨⟨after, there, counts⟩, -⟩ := failures_classified_iff (asked.step answered) found (by
      intro request rest same
      cases same) stepped rfl rfl positive (by decide) 0
  exact ⟨after, there, (counts.mpr rfl).mpr rfl⟩

/-! ### Foreign records and an unreachable receiver -/

/-- What the invoice adapter rejects with for an invoice that is missing or not the caller's. -/
def invoiceNotFound : Exn :=
  .notFound "Invoice not found" "INVOICE_NOT_FOUND" (.obj [("invoiceId", .str "HD-1")])

/-- What the chat adapter rejects with when its receiver cannot be reached. -/
def chatUnreachable : Exn :=
  .portDownstream "cskh-chat" 0 "unreachable: fetch failed" "https://cskh.example/webhooks/app"

/-- Five requests for a foreign invoice open the breaker of the port; an unreachable receiver
never opens its own. -/
theorem foreign_records_open_breaker :
    ¬ (∀ error : Exn, (∃ times,
        (toldTimes (breakerOptions "invoice" none) 0 error times).state = .open) ↔
        error.isInfrastructureProblem = true) ∧
      invoiceNotFound.isCallerError = true ∧
      (toldTimes (breakerOptions "invoice" (some ⟨50, 10000, 5⟩)) 0 invoiceNotFound 5).state = .open ∧
      chatUnreachable.isInfrastructureProblem = true ∧
      ∀ times, (toldTimes (breakerOptions "cskh-chat" none) 0 chatUnreachable times).state =
        .closed := by
  refine ⟨?_, by decide, by decide +kernel, by decide, ?_⟩
  · intro classified
    have opened : (toldTimes (breakerOptions "invoice" none) 0 invoiceNotFound 5).state = .open := by
      decide +kernel
    have wrong := (classified invoiceNotFound).mp ⟨5, opened⟩
    cases wrong
  · intro times
    rw [toldTimes_filtered (by decide)]
    rfl

end SelfService
