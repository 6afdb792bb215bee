/-
The circuit breaker service behind the decorator.

It drives the state of a breaker without ever asking whether an open one is due for a probe.
Calls take their time: one event lets a call arrive, another settles a call that had been
passed on.
-/

import SelfService.Resilience.Probing

namespace SelfService

/-! ### The filter of errors -/

/-- `recordFailure` of a breaker with the filter of its options, if there is one. -/
def CircuitBreakerState.recordFailureBy (errorFilter : Option (Exn → Bool)) (now : Nat)
    (error : Exn) (breaker : CircuitBreakerState) : CircuitBreakerState :=
  if errorFilter.any fun counts => !counts error then breaker
  else
    let counted := { breaker with
      requests := breaker.requests + 1
      failures := breaker.failures + 1
      failureCount := breaker.failureCount + 1
      lastFailureTime := now }
    let moved := if counted.state = .halfOpen then counted.open now else counted
    moved.cleanupOldRequests now

/-- The breakers of the ports have the filter of the registry. -/
theorem CircuitBreakerState.recordFailure_eq (now : Nat) (error : Exn)
    (breaker : CircuitBreakerState) :
    breaker.recordFailure now error =
      breaker.recordFailureBy (some isInfrastructureError) now error := by
  unfold recordFailure recordFailureBy
  cases counted : isInfrastructureError error <;> simp [counted]

namespace CircuitBreakerService

/-! ### The service for one key -/

/-- What a fallback does with the arguments of a call: it throws, or hands out a promise. -/
inductive FallbackOutcome (Value : Type) : Type
  | throws
  | promises (settled : Except Exn Value)

/-- The options of a breaker with those that are functions. -/
structure DecoratorOptions (Args Value : Type) where
  breaker : CircuitBreakerOptions
  errorFilter : Option (Exn → Bool)
  fallback : Option (Args → FallbackOutcome Value)

/-- A call that the wrapped function has not answered yet; `probe` tells that the breaker was
not closed when it was passed on. -/
structure PassedCall (Args : Type) where
  args : Args
  probe : Bool

/-- The breaker of the key, when it last opened, the calls that are under way, and what was
answered so far. -/
structure KeyState (Args Value : Type) where
  breaker : CircuitBreakerState
  openedAt : Nat
  passed : List (PassedCall Args)
  answers : List (Except Exn Value)

/-- A call arrives, or the wrapped function settles one of those under way. -/
inductive KeyEvent (Args Value : Type) : Type
  | arrives (now : Nat) (args : Args)
  | settles (now : Nat) (call : Nat) (outcome : Except Exn Value)

section Service

variable {Args Value : Type} (key : String) (options : DecoratorOptions Args Value)

def openError : Exn := .error ("Circuit breaker is OPEN for " ++ key)

/-- The breaker is made for the first call. -/
def created (now : Nat) : KeyState Args Value := ⟨.new options.breaker now, 0, [], []⟩

/-- What the `catch` block answers. -/
def answerOf (args : Args) (error : Exn) : Except Exn Value :=
  match options.fallback with
  | none => .error error
  | some fallback =>
      match fallback args with
      | .throws => .error error
      | .promises settled => settled

/-- The `catch` block. -/
def caught (now : Nat) (args : Args) (error : Exn) (s : KeyState Args Value) :
    KeyState Args Value :=
  let recorded := s.breaker.recordFailureBy options.errorFilter now error
  let breaker := if recorded.shouldOpen then recorded.open now else recorded
  { s with
    breaker := breaker
    openedAt := if s.breaker.state ≠ .open ∧ breaker.state = .open then now else s.openedAt
    answers := s.answers ++ [answerOf options args error] }

/-- `execute` up to the call of the wrapped function. -/
def arrive (now : Nat) (args : Args) (s : KeyState Args Value) : KeyState Args Value :=
  if s.breaker.state = .open then caught options now args (openError key) s
  else { s with passed := s.passed ++ [⟨args, s.breaker.state ≠ .closed⟩] }

/-- `execute` from the settlement of the wrapped function on. -/
def settle (now : Nat) (call : Nat) (outcome : Except Exn Value) (s : KeyState Args Value) :
    KeyState Args Value :=
  match s.passed[call]?, outcome with
  | none, _ => s
  | some _, .ok value =>
      { s with
        breaker := s.breaker.recordSuccess now
        passed := s.passed.eraseIdx call
        answers := s.answers ++ [.ok value] }
  | some passed, .error error =>
      caught options now passed.args error { s with passed := s.passed.eraseIdx call }

def execute (s : KeyState Args Value) : KeyEvent Args Value → KeyState Args Value
  | .arrives now args => arrive key options now args s
  | .settles now call outcome => settle options now call outcome s

def after (s : KeyState Args Value) (events : List (KeyEvent Args Value)) : KeyState Args Value :=
  events.foldl (execute key options) s

/-! ### Recovery -/

/-- From when on an arriving call is due as a probe. -/
def dueAt (s : KeyState Args Value) : Nat := s.openedAt + s.breaker.resetTimeout

/-- A call that is due is passed on, a call that is turned away is not counted as a failure, and
a probe that succeeds closes the breaker. -/
def Recovers (s : KeyState Args Value) (event : KeyEvent Args Value) : Prop :=
  let next := execute key options s event
  match event with
  | .arrives now args =>
      s.breaker.state = .open →
        (dueAt s ≤ now → next.passed = s.passed ++ [⟨args, true⟩]) ∧
        (next.passed = s.passed →
          next.breaker.failures = s.breaker.failures ∧
            next.breaker.failureCount = s.breaker.failureCount)
  | .settles _ call outcome =>
      ∀ passed value, s.passed[call]? = some passed → passed.probe = true → outcome = .ok value →
        next.breaker.state = .closed

/-- A call that finds the breaker open comes before it is due, and the filter does not count the
error it is turned away with. -/
def InTime (s : KeyState Args Value) : KeyEvent Args Value → Prop
  | .arrives now _ =>
      s.breaker.state = .open →
        now < dueAt s ∧ ∃ counts, options.errorFilter = some counts ∧ counts (openError key) = false
  | .settles _ _ _ => True

end Service

/-! ### Runs -/

section Runs

variable {Args Value : Type} {key : String} {options : DecoratorOptions Args Value}
variable {s : KeyState Args Value}

theorem state_recordFailureBy {errorFilter : Option (Exn → Bool)} {breaker : CircuitBreakerState}
    (steady : breaker.state ≠ .halfOpen) (now : Nat) (error : Exn) :
    (breaker.recordFailureBy errorFilter now error).state = breaker.state := by
  unfold CircuitBreakerState.recordFailureBy CircuitBreakerState.cleanupOldRequests
  split
  · rfl
  · simp only [steady, if_false]
    split <;> rfl

/-- Every counted failure is one more since the last reset. -/
theorem failureCount_recordFailureBy {errorFilter : Option (Exn → Bool)}
    {breaker : CircuitBreakerState} (steady : breaker.state ≠ .halfOpen) (now : Nat) (error : Exn) :
    (breaker.recordFailureBy errorFilter now error).failureCount =
      if errorFilter.any fun counts => !counts error then breaker.failureCount
      else breaker.failureCount + 1 := by
  unfold CircuitBreakerState.recordFailureBy CircuitBreakerState.cleanupOldRequests
  split
  · rfl
  · simp only [steady, if_false]
    split <;> rfl

theorem state_recordSuccess {breaker : CircuitBreakerState} (steady : breaker.state ≠ .halfOpen)
    (now : Nat) : (breaker.recordSuccess now).state = breaker.state := by
  unfold CircuitBreakerState.recordSuccess CircuitBreakerState.cleanupOldRequests
  simp only [steady, if_false]
  split <;> rfl

/-- No breaker is ever half open, and no call is a probe. -/
structure Unprobed (s : KeyState Args Value) : Prop where
  steady : s.breaker.state ≠ .halfOpen
  plain : ∀ call ∈ s.passed, call.probe = false

theorem Unprobed.caught (unprobed : Unprobed s) (now : Nat) (args : Args) (error : Exn) :
    Unprobed (caught options now args error s) := by
  constructor
  · unfold CircuitBreakerService.caught
    simp only
    split
    · exact CircuitState.noConfusion
    · rw [state_recordFailureBy unprobed.steady]
      exact unprobed.steady
  · exact unprobed.plain

theorem Unprobed.arrive (unprobed : Unprobed s) (now : Nat) (args : Args) :
    Unprobed (arrive key options now args s) := by
  unfold CircuitBreakerService.arrive
  by_cases rejected : s.breaker.state = .open
  · rw [if_pos rejected]
    exact unprobed.caught now args (openError key)
  · rw [if_neg rejected]
    refine ⟨unprobed.steady, fun call member => ?_⟩
    rcases List.mem_append.mp member with earlier | last
    · exact unprobed.plain call earlier
    · have closed : s.breaker.state = .closed := by
        cases state : s.breaker.state with
        | closed => rfl
        | «open» => exact absurd state rejected
        | halfOpen => exact absurd state unprobed.steady
      rw [List.mem_singleton.mp last]
      simp [closed]

theorem Unprobed.settle (unprobed : Unprobed s) (now call : Nat) (outcome : Except Exn Value) :
    Unprobed (settle options now call outcome s) := by
  have rest : ∀ other ∈ s.passed.eraseIdx call, other.probe = false := fun other member =>
    unprobed.plain other (List.mem_of_mem_eraseIdx member)
  unfold CircuitBreakerService.settle
  cases found : s.passed[call]? with
  | none => exact unprobed
  | some passed =>
      cases outcome with
      | ok value =>
          refine ⟨?_, rest⟩
          change (s.breaker.recordSuccess now).state ≠ .halfOpen
          rw [state_recordSuccess unprobed.steady]
          exact unprobed.steady
      | error error =>
          have left : Unprobed { s with passed := s.passed.eraseIdx call } :=
            ⟨unprobed.steady, rest⟩
          exact left.caught now passed.args error

theorem Unprobed.execute (unprobed : Unprobed s) (event : KeyEvent Args Value) :
    Unprobed (execute key options s event) := by
  cases event with
  | arrives now args => exact unprobed.arrive now args
  | settles now call outcome => exact unprobed.settle now call outcome

theorem unprobed_after (events : List (KeyEvent Args Value)) (unprobed : Unprobed s) :
    Unprobed (after key options s events) := by
  induction events generalizing s with
  | nil => exact unprobed
  | cons event rest ih => exact ih (unprobed.execute event)

/-- One event: a call that finds the breaker open is never passed on, and it is counted as a
failure unless the filter says otherwise. -/
theorem Unprobed.recovers_iff (unprobed : Unprobed s) (event : KeyEvent Args Value) :
    Recovers key options s event ↔ InTime key options s event := by
  cases event with
  | settles now call outcome =>
      refine ⟨fun _ => trivial, fun _ passed value found probe _ => ?_⟩
      rw [unprobed.plain passed (List.mem_of_getElem? found)] at probe
      cases probe
  | arrives now args =>
      refine forall_congr' fun rejected => ?_
      have next : CircuitBreakerService.execute key options s (.arrives now args) =
          CircuitBreakerService.caught options now args (openError key) s := if_pos rejected
      have still : ((s.breaker.recordFailureBy options.errorFilter now (openError key))).state =
          .open := by
        rw [state_recordFailureBy unprobed.steady, rejected]
      have settled : (CircuitBreakerService.caught options now args (openError key) s).breaker =
          s.breaker.recordFailureBy options.errorFilter now (openError key) := by
        unfold CircuitBreakerService.caught CircuitBreakerState.shouldOpen
        simp [still]
      rw [next, settled]
      have turnedAway : (CircuitBreakerService.caught options now args (openError key) s).passed =
          s.passed := rfl
      rw [turnedAway]
      constructor
      · intro recovers
        obtain ⟨due, uncounted⟩ := recovers
        constructor
        · refine Nat.lt_of_not_le fun late => ?_
          have longer := congrArg List.length (due late)
          simp at longer
        · have same := (uncounted rfl).2
          rw [failureCount_recordFailureBy unprobed.steady] at same
          cases filter : options.errorFilter with
          | none => simp [filter] at same
          | some counts =>
              refine ⟨counts, rfl, ?_⟩
              cases counted : counts (openError key) with
              | false => rfl
              | true => simp [filter, counted] at same
      · intro inTime
        obtain ⟨early, counts, filter, uncounted⟩ := inTime
        refine ⟨fun late => absurd late (Nat.not_le.mpr early), fun _ => ?_⟩
        have unchanged : s.breaker.recordFailureBy options.errorFilter now (openError key) =
            s.breaker := by
          unfold CircuitBreakerState.recordFailureBy
          simp [filter, uncounted]
        rw [unchanged]
        exact ⟨rfl, rfl⟩

/-- The breaker of a key recovers throughout a run if and only if no call finds it open once it
is due, and the filter leaves out the error of the calls that are turned away before. -/
theorem service_recovers_iff (key : String) (options : DecoratorOptions Args Value)
    (createdAt : Nat) (events : List (KeyEvent Args Value)) :
    (∀ past event, past ++ [event] <+: events →
      Recovers key options (after key options (created options createdAt) past) event) ↔
    ∀ past event, past ++ [event] <+: events →
      InTime key options (after key options (created options createdAt) past) event := by
  have start : Unprobed (created options createdAt) :=
    ⟨CircuitState.noConfusion, fun _ member => absurd member List.not_mem_nil⟩
  refine forall_congr' fun past => forall_congr' fun event => forall_congr' fun _ => ?_
  exact (unprobed_after past start).recovers_iff event

end Runs

/-! ### A breaker that never closes again -/

/-- The defaults, but that one request is enough to open the breaker. -/
def plainOptions : DecoratorOptions Unit Unit where
  breaker := ⟨50, 30000, 1, 60000, "ExternalAPI"⟩
  errorFilter := none
  fallback := none

/-- The wrapped function fails once, and the next call comes an hour later. -/
def hourLater : List (KeyEvent Unit Unit) :=
  [.arrives 0 (), .settles 10 0 (.error (.error "ECONNREFUSED")), .arrives 3600000 ()]

/-- The call of an hour later is turned away and counted as a failure. -/
theorem never_probed :
    ¬ ∀ past event, past ++ [event] <+: hourLater →
      Recovers "ExternalAPI" plainOptions
        (after "ExternalAPI" plainOptions (created plainOptions 0) past) event := by
  intro recovers
  have last := recovers (hourLater.take 2) (.arrives 3600000 ()) ⟨[], rfl⟩
  have passed := (last (by decide +kernel)).1 (by decide +kernel)
  exact absurd (congrArg List.length passed) (by decide +kernel)

end CircuitBreakerService

end SelfService
