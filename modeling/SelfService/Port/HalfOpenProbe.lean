/-
The probe of a half-open breaker.

`ProbedRun` follows a run and remembers who moved the breaker to half open.
Nothing in the breaker does.  As long as no other call on the port that has yet
to hear from its adapter takes a turn, and what the probe is answered is counted,
the probe's own outcome closes or opens the breaker.
-/

import SelfService.Port.FailureClasses

namespace SelfService

open Data EventLoop PortRegistry

abbrev RegistryPool := Pool (portSignature registryOnly) Resolution

abbrev GateAction := Action (portSignature registryOnly) PortExternal

def stateOf (world : World registryOnly) (portName : String) : Option CircuitState :=
  (world.circuitBreakers.get? portName).map CircuitBreakerState.state

/-- The breaker of the port is half open. -/
def OnTrial (portName : String) (p : RegistryPool) : Prop :=
  stateOf p.snapshot.state portName = some .halfOpen

instance (portName : String) (p : RegistryPool) : Decidable (OnTrial portName p) :=
  inferInstanceAs (Decidable (_ = _))

/-- Thread `tid` runs an `execute` on the port. -/
def InFlight (portName : String) (p : RegistryPool) (tid : Nat) : Prop :=
  ∃ (i : Invocation) (task : PortTask registryOnly Resolution),
    p.threads[tid]? = some (.running (.inl (.execute i)) task) ∧ i.portName = portName

/-- The call has yet to hear from its adapter, or has heard just now. -/
def Pending (own : RegistryTrace) : Prop := Undecided own ∨ (arrived own).isSome = true

/-- While the breaker is half open, no other pending call on the port takes a turn, and what the
probe is answered is counted. -/
def Orderly (portName : String) (p : RegistryPool) (prober : Option Nat) : GateAction → Prop
  | .resume tid => OnTrial portName p → InFlight portName p tid →
      Pending (ownEntries tid p.snapshot.trace) → prober = some tid ∧
        ∀ error, arrived (ownEntries tid p.snapshot.trace) = some (.error error) →
          CircuitBreakerState.isInfrastructureError error = true
  | _ => True

/-- Who moved the breaker to half open, as long as it is. -/
def proberAfter (portName : String) (p next : RegistryPool) (prober : Option Nat) :
    GateAction → Option Nat
  | .resume tid =>
      if OnTrial portName next then if OnTrial portName p then prober else some tid else none
  | _ => if OnTrial portName next then prober else none

/-- A run whose steps all meet a condition, with the prober it has come to. -/
inductive ProbedRun (condition : RegistryPool → Option Nat → GateAction → Prop)
    (wiring : Wiring) (portName : String) (world : World registryOnly) :
    RegistryPool → Option Nat → Prop
  | start : ProbedRun condition wiring portName world (Pool.initial world) none
  | step {p next : RegistryPool} {prober : Option Nat} {action : GateAction}
      (run : ProbedRun condition wiring portName world p prober)
      (meets : condition p prober action)
      (stepped : p.step wiring.registry action = some next) :
      ProbedRun condition wiring portName world next (proberAfter portName p next prober action)

/-- The adapter has just answered the thread, which has not gone on. -/
def Settling (p : RegistryPool) (tid : Nat) (outcome : Except Exn JsValue) : Prop :=
  (∀ call request rest, p.threads[tid]? ≠ some (.running call (.await request rest))) ∧
    arrived (ownEntries tid p.snapshot.trace) = some outcome

/-- The thread is in the middle of its adapter call. -/
def Probing (portName : String) (p : RegistryPool) (tid : Nat) : Prop :=
  ∃ (i : Invocation) (task : PortTask registryOnly Resolution),
    p.threads[tid]? = some (.running (.inl (.execute i)) task) ∧ i.portName = portName ∧
      ((∃ kind rest, task = .await (.inl (.adapter ⟨portName, kind⟩ i.context i.method i.params))
          rest) ∨ ∃ outcome, Settling p tid outcome)

def verdict : Except Exn JsValue → CircuitState
  | .ok _ => .closed
  | .error _ => .open

/-- What holds of a step that finds the breaker half open. -/
structure SingleProbe (portName : String) (p next : RegistryPool) (prober : Option Nat)
    (action : GateAction) : Prop where
  /-- Whoever moved the breaker is in the middle of its adapter call. -/
  probing : ∃ tid, prober = some tid ∧ Probing portName p tid
  /-- No `execute` comes to wait for an adapter of the port. -/
  starts : ∀ (tid : Nat) (i : Invocation) ref context method params
    (rest : Except Exn JsValue → PortTask registryOnly Resolution), i.portName = portName →
    next.threads[tid]? = some (Thread.running (S := portSignature registryOnly) (.inl (.execute i))
      (.await (.inl (.adapter ref context method params)) rest)) →
    p.threads[tid]? = next.threads[tid]?
  /-- Only the probe's outcome moves the breaker, and it closes or opens it. -/
  decides : ∀ tid outcome, prober = some tid → action = .resume tid → Settling p tid outcome →
    stateOf next.snapshot.state portName = some (verdict outcome)
  waits : (∀ tid outcome, prober = some tid → action = .resume tid → ¬ Settling p tid outcome) →
    OnTrial portName next

/-! ### Breakers along one step -/

section Steps

variable {wiring : Wiring} {world : World registryOnly} {p next : RegistryPool} {tid : Nat}
  {i : Invocation} {portName : String}

theorem answer_breakers {after : World registryOnly} {request : (portSignature registryOnly).Req}
    {answer : (portSignature registryOnly).Ans request} {before : World registryOnly}
    (performed : wiring.registry.perform before request answer = some after) :
    after.circuitBreakers = before.circuitBreakers := by
  rcases request with (command | ref | payload) | request
  · have performed : performPort wiring.remote before (.cache command) answer = some after :=
      performed
    obtain ⟨-, cache, -, rfl⟩ := performPort_cache performed
    rfl
  · cases performed
    rfl
  · cases (answer : Reply (Option String)) with
    | ok jobId =>
        cases performed
        rfl
    | failed applied reason =>
        cases performed
        split <;> rfl
  · exact request.elim

/-- Only a turn of `execute` moves a breaker. -/
theorem step_breakers (reached : Reachable wiring.registry world p) {action : GateAction}
    (stepped : p.step wiring.registry action = some next) :
    next.snapshot.state.circuitBreakers = p.snapshot.state.circuitBreakers ∨
      ∃ tid i task, action = .resume tid ∧
        p.threads[tid]? = some (.running (.inl (.execute i)) task) ∧
        ∀ request rest, task ≠ .await request rest := by
  cases action with
  | call call =>
      cases stepped
      exact Or.inl rfl
  | resume tid =>
      have stepping := stepped
      simp only [Pool.step] at stepped
      split at stepped
      · rename_i call task found
        by_cases waiting : ∃ request rest, task = .await request rest
        · obtain ⟨request, rest, rfl⟩ := waiting
          rw [Pool.step_resume_await found] at stepping
          cases stepping
          exact Or.inl rfl
        · have ready : ∀ request rest, task ≠ .await request rest :=
            fun request rest same => waiting ⟨request, rest, same⟩
          have other (obeys : ∀ start stop last, gateLaw call start stop last →
              last.state.circuitBreakers = start.state.circuitBreakers) :
              next.snapshot.state.circuitBreakers = p.snapshot.state.circuitBreakers := by
            obtain ⟨stop, last, stopped, obeyed⟩ :=
              reached.turn (gate_lawful wiring) found ready stepping
            rw [stopped.state_eq]
            exact obeys (p.snapshot.own tid) stop (last.own tid) obeyed
          rcases call with (i | payload | cause | cause) | call
          · exact Or.inr ⟨tid, i, task, rfl, found, ready⟩
          · exact Or.inl (other fun _ _ _ obeyed => obeyed)
          · exact Or.inl (other fun _ _ _ obeyed => obeyed)
          · exact Or.inl (other fun _ _ _ obeyed => obeyed)
          · exact call.elim
      · cases stepped
  | answer tid request answer =>
      simp only [Pool.step] at stepped
      split at stepped
      · obtain ⟨delivered, told, rfl⟩ := Option.map_eq_some_iff.mp stepped
        obtain ⟨after, performed, logged⟩ := delivered_log told
        left
        change delivered.1.state.circuitBreakers = _
        rw [logged, Snapshot.log_state]
        exact answer_breakers performed
      · cases stepped
  | external event =>
      obtain ⟨state, moved, rfl⟩ := Option.map_eq_some_iff.mp stepped
      left
      have moved : World.external wiring.remote p.snapshot.state event = some state := moved
      rcases external_cases moved with ⟨millis, rfl⟩ | ⟨fullKey, -, rfl⟩ | ⟨mock, endpoints, rfl⟩ <;>
        rfl

theorem setBreaker_other {portName other : String} (different : other ≠ portName)
    (change : CircuitBreakerState → CircuitBreakerState) (world : World registryOnly) :
    (setBreaker other change world).circuitBreakers.get? portName =
      world.circuitBreakers.get? portName := by
  unfold setBreaker
  split
  · exact OrderedMap.get?_set_of_ne _ _ different
  · rfl

theorem stateOf_setBreaker (change : CircuitBreakerState → CircuitBreakerState)
    (world : World registryOnly) :
    stateOf (setBreaker portName change world) portName =
      (world.circuitBreakers.get? portName).map fun breaker => (change breaker).state := by
  cases there : world.circuitBreakers.get? portName with
  | none =>
      unfold stateOf setBreaker
      simp only [there, Option.map_none]
  | some breaker =>
      unfold stateOf
      rw [setBreaker_get? change there]
      rfl

theorem told_halfOpen {now : Nat} {outcome : Except Exn JsValue} {breaker : CircuitBreakerState}
    (trial : (breaker.told now outcome).state = .halfOpen) : breaker.state = .halfOpen := by
  cases outcome with
  | ok data =>
      by_contra other
      have trial : (breaker.recordSuccess now).state = .halfOpen := trial
      rw [recordSuccess_counts other] at trial
      revert trial
      split <;> exact other
  | error error =>
      have recorded : (breaker.recordFailure now error).state = .halfOpen := by
        unfold CircuitBreakerState.told at trial
        dsimp only at trial
        split at trial
        · cases trial
        · exact trial
      cases counted : CircuitBreakerState.isInfrastructureError error with
      | false =>
          rw [recordFailure_filtered counted] at recorded
          exact recorded
      | true =>
          by_contra other
          rw [recordFailure_counts counted other] at recorded
          revert recorded
          split <;> exact other

/-- An outcome that is counted closes or opens a half-open breaker. -/
theorem told_verdict {now : Nat} {outcome : Except Exn JsValue} {breaker : CircuitBreakerState}
    (trial : breaker.state = .halfOpen)
    (counted : ∀ error, outcome = .error error →
      CircuitBreakerState.isInfrastructureError error = true) :
    (breaker.told now outcome).state = verdict outcome := by
  cases outcome with
  | ok data => exact congrArg CircuitBreakerState.state (recordSuccess_halfOpen trial)
  | error error =>
      change (if (breaker.recordFailure now error).shouldOpen = true then
        (breaker.recordFailure now error).open now
        else breaker.recordFailure now error).state = .open
      rw [recordFailure_halfOpen (counted error rfl) trial]
      split <;> rfl

/-- No law holds of every memory that lets a call through or leaves its breaker untold. -/
theorem exists_rejecting (portName : String) :
    ∃ world : World registryOnly, rejectsNow world portName = true := by
  refine ⟨{ bareWorld 0 .empty .empty () with
    circuitBreakers := OrderedMap.empty.set portName
      (CircuitBreakerState.open 0 (.new ⟨50, 10000, 5, 0, portName⟩ 0)) }, ?_⟩
  unfold rejectsNow
  dsimp only
  rw [OrderedMap.get?_set_self]
  rfl

theorem exists_moving (portName : String) (outcome : Except Exn JsValue) :
    ∃ world : World registryOnly,
      (noteOutcome portName outcome world).circuitBreakers ≠ world.circuitBreakers := by
  let breaker : CircuitBreakerState :=
    { CircuitBreakerState.new ⟨50, 10000, 5, 0, ""⟩ 0 with
      state := .halfOpen
      requests := 10
      failures := 10 }
  refine ⟨{ bareWorld 0 .empty .empty () with
    circuitBreakers := OrderedMap.empty.set portName breaker }, ?_⟩
  intro same
  rw [noteOutcome_eq] at same
  have there := congrArg (fun breakers => breakers.get? portName) same
  dsimp only at there
  rw [setBreaker_get? _ (OrderedMap.get?_set_self _ _ _), OrderedMap.get?_set_self] at there
  have kept : (breaker.told 0 outcome).state = .halfOpen :=
    congrArg CircuitBreakerState.state (Option.some.inj there)
  cases outcome with
  | ok data => cases kept
  | error error =>
      cases counted : CircuitBreakerState.isInfrastructureError error with
      | true =>
          have opened : (breaker.told 0 (.error error)).state = verdict (.error error) :=
            told_verdict rfl fun other same => by
              cases same
              exact counted
          cases kept.symm.trans opened
      | false =>
          have opens : breaker.shouldOpen = true := by decide +kernel
          unfold CircuitBreakerState.told at kept
          simp only [recordFailure_filtered counted, opens, if_true] at kept
          cases kept

theorem breakersAfter_other (different : i.portName ≠ portName) (start : RegistrySnapshot)
    (stop : RegistryStop) : (breakersAfter i.portName start stop).get? portName =
      start.state.circuitBreakers.get? portName := by
  unfold breakersAfter
  split
  · exact setBreaker_other different _ _
  · unfold toldBreakers
    split
    · rw [noteOutcome_eq]
      exact setBreaker_other different _ _
    · rfl

/-- A turn of a call that is not pending moves no breaker. -/
theorem breakersAfter_settled {start last : RegistrySnapshot} {stop : RegistryStop}
    (obeyed : GateLaw i start stop last) (settled : ¬ Pending start.trace) :
    breakersAfter i.portName start stop = start.state.circuitBreakers := by
  unfold breakersAfter
  split
  · obtain ⟨-, -, undecided⟩ := obeyed.starts _ _ _ _ rfl
    exact absurd (Or.inl undecided) settled
  · unfold toldBreakers
    split
    · rename_i outcome told
      apply absurd _ settled
      right
      rw [told]
      rfl
    · rfl

/-- A thread that has just been answered by its adapter does not wait. -/
theorem goes_on {request : (portSignature registryOnly).Req}
    {rest : (portSignature registryOnly).Ans request → PortTask registryOnly Resolution}
    {outcome : Except Exn JsValue} {own : RegistryTrace}
    (fresh : Fresh wiring.registry gateLaw tid (.inl (.execute i)) (.await request rest) own)
    (told : arrived own = some outcome) : False := by
  obtain ⟨state, moving⟩ := exists_moving i.portName outcome
  have obeyed : GateLaw i ⟨state, own⟩ (.awaits request) ⟨state, own⟩ := (fresh state).1
  have untold (same : breakersAfter i.portName ⟨state, own⟩ (.awaits request) =
      toldBreakers i.portName ⟨state, own⟩) : False := by
    apply moving
    have breakers := obeyed.breakers
    rw [same, toldBreakers, told] at breakers
    exact breakers.symm
  rcases request with (command | ⟨ref, context, method, params⟩ | payload) | request
  · exact untold rfl
  · obtain ⟨-, -, undecided⟩ := obeyed.starts _ _ _ _ rfl
    cases told.symm.trans undecided.unanswered.silent
  · exact untold rfl
  · exact untold rfl

/-- The step that moves the breaker to half open leaves its thread waiting for the adapter. -/
theorem probing_begins (reached : Reachable wiring.registry world p) {action : GateAction}
    (stepped : p.step wiring.registry action = some next) (before : ¬ OnTrial portName p)
    (trial : OnTrial portName next) : ∃ tid, action = .resume tid ∧ Probing portName next tid := by
  have moved : next.snapshot.state.circuitBreakers.get? portName ≠
      p.snapshot.state.circuitBreakers.get? portName := by
    intro same
    apply before
    unfold OnTrial stateOf
    rw [← same]
    exact trial
  rcases step_breakers reached stepped with same | ⟨tid, i, task, rfl, found, ready⟩
  · exact absurd (congrArg (fun breakers => breakers.get? portName) same) moved
  · refine ⟨tid, rfl, ?_⟩
    obtain ⟨stop, last, stopped, obeyed⟩ := reached.turn (gate_lawful wiring) found ready stepped
    have obeyed : GateLaw i (p.snapshot.own tid) stop (last.own tid) := obeyed
    have breakers : next.snapshot.state.circuitBreakers =
        breakersAfter i.portName (p.snapshot.own tid) stop := by
      rw [stopped.state_eq]
      exact obeyed.breakers
    have onPort : i.portName = portName := by
      by_contra different
      apply moved
      rw [breakers]
      exact breakersAfter_other different _ _
    subst onPort
    unfold breakersAfter at breakers
    split at breakers
    · obtain ⟨⟨kind, same⟩, -⟩ := obeyed.starts _ _ _ _ rfl
      rw [same] at stopped
      obtain ⟨-, rest, there⟩ := stopped
      exact ⟨i, _, there, rfl, Or.inl ⟨kind, rest, rfl⟩⟩
    · unfold toldBreakers at breakers
      split at breakers
      · rename_i outcome told
        apply absurd _ before
        unfold OnTrial stateOf at trial
        rw [breakers, noteOutcome_eq] at trial
        have trial : stateOf (setBreaker i.portName
            (CircuitBreakerState.told (p.snapshot.own tid).state.now outcome)
            (p.snapshot.own tid).state) i.portName = some .halfOpen := trial
        rw [stateOf_setBreaker] at trial
        obtain ⟨breaker, there, state⟩ := Option.map_eq_some_iff.mp trial
        unfold OnTrial stateOf
        exact Option.map_eq_some_iff.mpr ⟨breaker, there, told_halfOpen state⟩
      · apply absurd _ moved
        rw [breakers]
        rfl

/-- The probe goes on until the turn in which its outcome closes or opens the breaker. -/
theorem probing_goes_on (reached : Reachable wiring.registry world p) {action : GateAction}
    (stepped : p.step wiring.registry action = some next)
    (orderly : Orderly portName p (some tid) action) (trial : OnTrial portName p)
    (probing : Probing portName p tid) :
    (∃ outcome, action = .resume tid ∧ Settling p tid outcome ∧
        stateOf next.snapshot.state portName = some (verdict outcome)) ∨
      (∀ outcome, action = .resume tid → ¬ Settling p tid outcome) ∧
        OnTrial portName next ∧ Probing portName next tid := by
  obtain ⟨i, task, found, onPort, middle⟩ := probing
  by_cases moves : action.Moves tid
  · cases action with
    | call call => cases moves
    | external event => cases moves
    | resume other =>
        cases moves
        rcases middle with ⟨kind, rest, rfl⟩ | ⟨outcome, settling⟩
        · rw [Pool.step_resume_await found] at stepped
          cases stepped
          right
          refine ⟨?_, trial, i, _, found, onPort, Or.inl ⟨kind, rest, rfl⟩⟩
          rintro outcome - ⟨ready, -⟩
          exact ready _ _ _ found
        · left
          have ready : ∀ request rest, task ≠ .await request rest := by
            rintro request rest rfl
            exact settling.1 _ _ _ found
          have pending : Pending (ownEntries tid p.snapshot.trace) := by
            right
            rw [settling.2]
            rfl
          obtain ⟨-, counted⟩ := orderly trial ⟨i, task, found, onPort⟩ pending
          refine ⟨outcome, rfl, settling, ?_⟩
          obtain ⟨breaker, there, state⟩ := Option.map_eq_some_iff.mp trial
          have verdicts : (breaker.told p.snapshot.state.now outcome).state = verdict outcome := by
            apply told_verdict state
            rintro error rfl
            exact counted error settling.2
          rw [stateOf, breaker_told reached found ready stepped settling.2, noteOutcome_eq, onPort,
            setBreaker_get? _ there, Option.map_some, verdicts]
    | answer other request answer =>
        cases moves
        right
        refine ⟨(fun _ same => nomatch same), ?_⟩
        simp only [Pool.step, found] at stepped
        obtain ⟨delivered, told, rfl⟩ := Option.map_eq_some_iff.mp stepped
        have fresh := ((gate_lawful wiring).reachable reached).told found told
        rcases middle with ⟨kind, rest, rfl⟩ | ⟨outcome, settling⟩
        · simp only [deliver] at told
          split at told
          · rename_i same
            subst same
            obtain ⟨after, performed, rfl⟩ := Option.map_eq_some_iff.mp told
            have heard : arrived (ownEntries tid (p.snapshot.trace ++ [⟨tid,
                wiring.registry.clock after, .answered (.inl (.adapter ⟨portName, kind⟩ i.context
                  i.method i.params)) answer⟩])) = some answer := by
              rw [ownEntries_append, ownEntries_self, arrived_snoc]
              rfl
            refine ⟨?_, i, rest answer, getElem?_set_running found _, onPort, Or.inr ⟨answer, ?_, heard⟩⟩
            · change stateOf after portName = _
              rw [stateOf, answer_breakers performed]
              exact trial
            · intro call request next there
              rw [getElem?_set_running found, Option.some.injEq, Thread.running.injEq] at there
              rw [there.2] at fresh
              exact goes_on fresh heard
          · cases told
        · cases task with
          | await request rest => exact absurd found (settling.1 _ _ _)
          | _ => cases told
  · obtain ⟨there, follows⟩ := Pool.step_other stepped found moves
    right
    refine ⟨?_, ?_, i, task, there, onPort, ?_⟩
    · rintro outcome rfl
      exact absurd rfl moves
    · rcases step_breakers reached stepped with same | ⟨other, j, busy, rfl, at_, ready⟩
      · unfold OnTrial stateOf
        rw [same]
        exact trial
      · obtain ⟨stop, last, stopped, obeyed⟩ := reached.turn (gate_lawful wiring) at_ ready stepped
        have obeyed : GateLaw j (p.snapshot.own other) stop (last.own other) := obeyed
        have breakers : next.snapshot.state.circuitBreakers =
            breakersAfter j.portName (p.snapshot.own other) stop := by
          rw [stopped.state_eq]
          exact obeyed.breakers
        unfold OnTrial stateOf
        rw [breakers]
        by_cases same : j.portName = portName
        · rw [breakersAfter_settled obeyed]
          · exact trial
          · intro pending
            obtain ⟨mine, -⟩ := orderly trial ⟨j, busy, at_, same⟩ pending
            exact moves (Option.some.inj mine).symm
        · rw [breakersAfter_other same]
          exact trial
    · rcases middle with asks | ⟨outcome, ready, told⟩
      · exact Or.inl asks
      · refine Or.inr ⟨outcome, ?_, ?_⟩
        · rw [there, ← found]
          exact ready
        · rw [follows.ownEntries_eq]
          exact told

end Steps

/-! ### Runs -/

section Runs

variable {wiring : Wiring} {world : World registryOnly} {p next : RegistryPool} {portName : String}
  {prober : Option Nat}

structure ProbeInv (wiring : Wiring) (portName : String) (world : World registryOnly)
    (p : RegistryPool) (prober : Option Nat) : Prop where
  reached : Reachable wiring.registry world p
  probing : OnTrial portName p → ∃ tid, prober = some tid ∧ Probing portName p tid

theorem ProbeInv.step (inv : ProbeInv wiring portName world p prober) {action : GateAction}
    (orderly : Orderly portName p prober action)
    (stepped : p.step wiring.registry action = some next) :
    ProbeInv wiring portName world next (proberAfter portName p next prober action) := by
  refine ⟨inv.reached.step stepped, ?_⟩
  intro trial
  by_cases before : OnTrial portName p
  · obtain ⟨tid, rfl, probing⟩ := inv.probing before
    have kept : proberAfter portName p next (some tid) action = some tid := by
      cases action <;> simp only [proberAfter, if_pos trial, if_pos before]
    rcases probing_goes_on inv.reached stepped orderly before probing with
      ⟨outcome, -, -, decided⟩ | ⟨-, -, probing⟩
    · have trial : stateOf next.snapshot.state portName = some .halfOpen := trial
      rw [decided] at trial
      cases outcome <;> cases trial
    · exact ⟨tid, kept, probing⟩
  · obtain ⟨tid, rfl, probing⟩ := probing_begins inv.reached stepped before trial
    refine ⟨tid, ?_, probing⟩
    rw [proberAfter, if_pos trial, if_neg before]

theorem ProbedRun.inv (run : ProbedRun (Orderly portName) wiring portName world p prober)
    (settled : stateOf world portName ≠ some .halfOpen) :
    ProbeInv wiring portName world p prober := by
  induction run with
  | start => exact ⟨⟨[], rfl⟩, fun trial => absurd trial settled⟩
  | step run orderly stepped ih => exact ih.step orderly stepped

/-- In every orderly run, as long as the breaker is half open there is one probe. -/
theorem single_probe (run : ProbedRun (Orderly portName) wiring portName world p prober)
    (settled : stateOf world portName ≠ some .halfOpen) {action : GateAction}
    (orderly : Orderly portName p prober action)
    (stepped : p.step wiring.registry action = some next) (trial : OnTrial portName p) :
    SingleProbe portName p next prober action := by
  have inv := run.inv settled
  obtain ⟨tid, rfl, probing⟩ := inv.probing trial
  have onwards := probing_goes_on inv.reached stepped orderly trial probing
  constructor
  · exact ⟨tid, rfl, probing⟩
  · intro other i ref context method params rest onPort waits
    by_contra starts
    rcases inv.reached.comes_to_await (gate_lawful wiring) stepped waits with
      waited | ⟨rfl, ⟨task, found⟩, obeyed⟩ | always
    · exact starts (waited.trans waits.symm)
    · by_cases waiting : ∃ request rest, task = .await request rest
      · obtain ⟨request, rest, rfl⟩ := waiting
        rw [Pool.step_resume_await found] at stepped
        cases stepped
        exact starts rfl
      · have obeyed : GateLaw i _ _ _ := obeyed
        obtain ⟨-, -, undecided⟩ := obeyed.starts _ _ _ _ rfl
        obtain ⟨mine, -⟩ := orderly trial ⟨i, task, found, onPort⟩ (Or.inl undecided)
        cases mine
        obtain ⟨j, busy, there, -, middle⟩ := probing
        rcases middle with ⟨kind, rest, rfl⟩ | ⟨outcome, -, told⟩
        · cases found.symm.trans there
          exact waiting ⟨_, _, rfl⟩
        · cases told.symm.trans undecided.unanswered.silent
    · obtain ⟨state, rejects⟩ := exists_rejecting i.portName
      have obeyed : GateLaw i _ _ _ := always state
      obtain ⟨-, admitted, -⟩ := obeyed.starts _ _ _ _ rfl
      cases rejects.symm.trans admitted
  · rintro other outcome same resumed settling
    cases same
    rcases onwards with ⟨heard, -, settled, decided⟩ | ⟨unsettled, -⟩
    · rw [Option.some.inj (settling.2.symm.trans settled.2)]
      exact decided
    · exact absurd settling (unsettled outcome resumed)
  · intro unsettled
    rcases onwards with ⟨outcome, resumed, settling, -⟩ | ⟨-, trial, -⟩
    · exact absurd settling (unsettled tid outcome rfl resumed)
    · exact trial

end Runs

/-! ### Probes of the port of payments -/

/-- The breaker has been open for as long as it takes. -/
def dueWorld : World registryOnly := { openWorld with now := openWorld.now + 30000 }

/-- What follows the pool, step by step. -/
def RegistryPool.after (p : RegistryPool) (actions : List GateAction) : RegistryPool :=
  (p.run gateWiring.registry actions).getD p

def probeStarted : RegistryPool :=
  RegistryPool.after (Pool.initial dueWorld) [.call (.inl (.execute openCharge)), .resume 0]

/-- The adapter answers the probe. -/
def probeAnswered (outcome : Except Exn JsValue) : RegistryPool :=
  RegistryPool.after probeStarted
    [.answer 0 (.inl (.adapter ⟨"payment", .mock⟩ none "create-payment" (.obj []))) outcome]

def probeHeard (outcome : Except Exn JsValue) : RegistryPool :=
  RegistryPool.after (probeAnswered outcome) [.resume 0]

theorem ProbedRun.next {condition : RegistryPool → Option Nat → GateAction → Prop}
    {p next : RegistryPool} {prober after : Option Nat}
    (run : ProbedRun condition gateWiring "payment" dueWorld p prober) (action : GateAction)
    (meets : condition p prober action)
    (stepped : p.step gateWiring.registry action = some next)
    (follows : proberAfter "payment" p next prober action = after) :
    ProbedRun condition gateWiring "payment" dueWorld next after :=
  follows ▸ .step run meets stepped

theorem probe_run {condition : RegistryPool → Option Nat → GateAction → Prop}
    (meets : ∀ p action, ¬ OnTrial "payment" p → condition p none action)
    (answers : ∀ p prober request answer, condition p prober (.answer 0 request answer))
    (outcome : Except Exn JsValue) :
    ProbedRun condition gateWiring "payment" dueWorld (probeAnswered outcome) (some 0) := by
  have called : ProbedRun condition gateWiring "payment" dueWorld
      (RegistryPool.after (Pool.initial dueWorld) [.call (.inl (.execute openCharge))]) none :=
    ProbedRun.start.next (.call (.inl (.execute openCharge))) (meets (Pool.initial dueWorld) _ (by decide +kernel)) rfl rfl
  have started : ProbedRun condition gateWiring "payment" dueWorld probeStarted (some 0) :=
    called.next (.resume 0) (meets _ _ (by decide +kernel)) rfl rfl
  exact started.next (.answer 0 (.inl (.adapter ⟨"payment", .mock⟩ none "create-payment" (.obj [])))
    outcome) (answers _ _ _ _) rfl rfl

theorem probe_settling (outcome : Except Exn JsValue) : Settling (probeAnswered outcome) 0 outcome := by
  refine ⟨?_, rfl⟩
  intro call request rest same
  cases outcome <;> cases same

theorem single_probe_timeout :
    stateOf (probeHeard (.error (.portTimeout "payment" 5000))).snapshot.state "payment" =
      some .open := by
  have run : ProbedRun (Orderly "payment") gateWiring "payment" dueWorld
      (probeAnswered (.error (.portTimeout "payment" 5000))) (some 0) := by
    apply probe_run
    · intro p action closed
      cases action <;> first | exact trivial | exact fun trial => absurd trial closed
    · exact fun p prober request answer => trivial
  have settling := probe_settling (.error (.portTimeout "payment" 5000))
  have orderly : Orderly "payment" (probeAnswered (.error (.portTimeout "payment" 5000))) (some 0)
      (.resume 0) := by
    intro trial flying pending
    refine ⟨rfl, ?_⟩
    intro error told
    cases settling.2.symm.trans told
    rfl
  have stepped : (probeAnswered (.error (.portTimeout "payment" 5000))).step gateWiring.registry
      (.resume 0) = some (probeHeard (.error (.portTimeout "payment" 5000))) := rfl
  have single := single_probe run (by decide +kernel) orderly stepped (by decide +kernel)
  exact single.decides 0 _ rfl rfl settling

/-- A second call on the port, while the probe waits for its adapter. -/
def secondCalled : RegistryPool :=
  RegistryPool.after probeStarted [.call (.inl (.execute openCharge))]

def secondStarted : RegistryPool := RegistryPool.after secondCalled [.resume 1]

/-- While the probe waits for its adapter, a second call passes the breaker and waits for it too.
A probe that is answered with a client error leaves the breaker half open. -/
theorem probe_is_not_single :
    ¬ (∀ p next prober action,
        ProbedRun (fun _ _ _ => True) gateWiring "payment" dueWorld p prober →
        p.step gateWiring.registry action = some next → OnTrial "payment" p →
        SingleProbe "payment" p next prober action) ∧
      (∃ prober, ProbedRun (fun _ _ _ => True) gateWiring "payment" dueWorld secondCalled prober) ∧
      (∃ requests : List (portSignature registryOnly).Req,
        requests = [.inl (.adapter ⟨"payment", .mock⟩ none "create-payment" (.obj [])),
          .inl (.adapter ⟨"payment", .mock⟩ none "create-payment" (.obj []))] ∧
        secondStarted.threads.filterMap (fun thread =>
          match thread with
          | .running _ (.await request _) => some request
          | _ => none) = requests) ∧
      OnTrial "payment"
        (probeHeard (.error (.portDownstream "payment" 404 "Not Found" "/payments"))) := by
  have run (outcome : Except Exn JsValue) : ProbedRun (fun _ _ _ => True) gateWiring "payment"
      dueWorld (probeAnswered outcome) (some 0) :=
    probe_run (fun _ _ _ => trivial) (fun _ _ _ _ => trivial) outcome
  have started : ProbedRun (fun _ _ _ => True) gateWiring "payment" dueWorld probeStarted (some 0) :=
    (ProbedRun.start.next (.call (.inl (.execute openCharge))) trivial rfl rfl).next (.resume 0)
      trivial rfl rfl
  refine ⟨?_, ⟨some 0, started.next (.call (.inl (.execute openCharge))) trivial rfl rfl⟩, ⟨_, rfl, rfl⟩, by decide +kernel⟩
  intro singles
  have single := singles _ (probeHeard (.error (.portDownstream "payment" 404 "Not Found"
    "/payments"))) _ (.resume 0) (run _) rfl (by decide +kernel)
  have decided := single.decides 0 _ rfl rfl (probe_settling _)
  revert decided
  decide +kernel

end SelfService
