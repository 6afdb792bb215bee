/-
The circuit breaker, turn by turn.

`GateLaw` says what one turn of `execute` does to the breakers and when it may
come to wait for its adapter.  Nothing else in the registry touches a breaker.
-/

import SelfService.EventLoop.Turns
import SelfService.Port.Registry

namespace SelfService

open Data EventLoop PortRegistry

abbrev RegistrySnapshot := Snapshot (portSignature registryOnly) Resolution

abbrev RegistryEntry := Entry (portSignature registryOnly) Resolution

abbrev RegistryTrace := Trace (portSignature registryOnly) Resolution

abbrev RegistryStop := Stop (portSignature registryOnly) Resolution

/-! ### What a turn does to the breakers -/

/-- The outcome of an adapter call, where an entry tells one. -/
def outcomeOf (entry : RegistryEntry) : Option (Except Exn JsValue) :=
  match entry.event with
  | .answered (.inl (.adapter _ _ _ _)) outcome => some outcome
  | _ => none

/-- The queue has answered. -/
def isQueued (entry : RegistryEntry) : Bool :=
  match entry.event with
  | .answered (.inl (.queueAdd _)) _ => true
  | _ => false

def Unanswered (own : RegistryTrace) : Prop := ∀ entry ∈ own, outcomeOf entry = none

/-- The adapter has not answered the call, nor the queue. -/
def Undecided (own : RegistryTrace) : Prop :=
  ∀ entry ∈ own, outcomeOf entry = none ∧ isQueued entry = false

/-- The outcome that a turn begins with. -/
def arrived (own : RegistryTrace) : Option (Except Exn JsValue) := own.getLast?.bind outcomeOf

def noteOutcome (portName : String) (outcome : Except Exn JsValue)
    (world : World registryOnly) : World registryOnly :=
  match outcome with
  | .ok _ => noteSuccess portName world
  | .error error => noteFailure portName error world

/-- The breakers at the end of a turn that does not come to the adapter. -/
def toldBreakers (portName : String) (start : RegistrySnapshot) :
    OrderedMap String CircuitBreakerState :=
  match arrived start.trace with
  | some outcome => (noteOutcome portName outcome start.state).circuitBreakers
  | none => start.state.circuitBreakers

/-- The breakers at the end of a turn. -/
def breakersAfter (portName : String) (start : RegistrySnapshot) :
    RegistryStop → OrderedMap String CircuitBreakerState
  | .awaits (.inl (.adapter _ _ _ _)) => (admitProbe portName start.state).circuitBreakers
  | _ => toldBreakers portName start

/-- What a call that was not let through to its adapter is answered with. -/
inductive Declined (portName : String) : Except Exn Resolution → Prop
  | degraded (result : PortResult) (ill : result.degraded = true) :
      Declined portName (.ok (.port result))
  | failed (cause : Exn) : Declined portName (.error (.portFallback portName cause))
  | queued (jobId : String) : Declined portName (.error (.portQueued portName jobId))
  | unqueued (reason : String) : Declined portName (.error (.error reason))

/-- An answer that needs no adapter: a hit, or that the port is not registered. -/
inductive Spares (portName : String) : Except Exn Resolution → Prop
  | hit (result : PortResult) (cached : result.fromCache = true) (healthy : result.degraded = false) :
      Spares portName (.ok (.port result))
  | unregistered : Spares portName (.error (.portNotRegistered portName))

/-- How a turn ends that does not come to the adapter. -/
inductive Aside (i : Invocation) : RegistryStop → Prop
  | lookup (key : String) : Aside i (.awaits (.inl (.cache (.get key))))
  | queue : Aside i (.awaits (.inl (.queueAdd (replayPayload i))))
  | spared (result : Except Exn Resolution) (spares : Spares i.portName result) :
      Aside i (.ends result)
  | declined (result : Except Exn Resolution) (declined : Declined i.portName result) :
      Aside i (.ends result)

/-- The stop is the adapter call of this invocation. -/
def AsksAdapter (i : Invocation) (stop : RegistryStop) : Prop :=
  ∃ kind, stop = .awaits (.inl (.adapter ⟨i.portName, kind⟩ i.context i.method i.params))

/-- One turn of `execute`: the breaker is asked on the way to the adapter, and told what the
adapter answered. -/
structure GateLaw (i : Invocation) (start : RegistrySnapshot) (stop : RegistryStop)
    (last : RegistrySnapshot) : Prop where
  breakers : last.state.circuitBreakers = breakersAfter i.portName start stop
  starts : ∀ ref context method params,
    stop = .awaits (.inl (.adapter ref context method params)) →
      AsksAdapter i stop ∧ rejectsNow start.state i.portName = false ∧ Undecided start.trace
  aside : Unanswered start.trace → AsksAdapter i stop ∨ Aside i stop

/-- The turns of every call of the registry. -/
def gateLaw : (portSignature registryOnly).Call → TurnLaw (portSignature registryOnly) Resolution
  | .inl (.execute i), start, stop, last => GateLaw i start stop last
  | .inl _, start, _, last =>
      last.state.circuitBreakers = start.state.circuitBreakers
  | .inr call, _, _, _ => call.elim

/-! ### Tails of a turn -/

section Tails

variable {wiring : Wiring} {tid : Nat} {i : Invocation} {start s : RegistrySnapshot}

/-- The last turn of a call ends lawfully. -/
def GateEnds (i : Invocation) (result : Except Exn PortResult) (start last : RegistrySnapshot) :
    Prop :=
  GateLaw i start (.ends (result.map Resolution.port)) last

/-- The breakers stand as the turn will leave them. -/
def Noted (i : Invocation) (start s : RegistrySnapshot) : Prop :=
  s.state.circuitBreakers = toldBreakers i.portName start

theorem GateLaw.ofAside {stop : RegistryStop} (noted : Noted i start s) (aside : Aside i stop) :
    GateLaw i start stop s := by
  constructor
  · cases aside with
    | lookup key => exact noted
    | queue => exact noted
    | spared result spares => exact noted
    | declined result declined => exact noted
  · rintro ref context method params rfl
    cases aside
  · exact fun _ => Or.inr aside

theorem arrived_snoc (own : RegistryTrace) (entry : RegistryEntry) :
    arrived (own ++ [entry]) = outcomeOf entry := by
  rw [arrived, List.getLast?_concat]
  rfl

/-- A turn that does not begin with an outcome begins noted. -/
theorem noted_of_not_arrived (silent : arrived start.trace = none) : Noted i start start := by
  rw [Noted, toldBreakers, silent]

theorem Unanswered.silent {own : RegistryTrace} (unanswered : Unanswered own) :
    arrived own = none := by
  unfold arrived
  cases last : own.getLast? with
  | none => rfl
  | some entry => exact unanswered entry (List.mem_of_getLast? last)

theorem Undecided.unanswered {own : RegistryTrace} (undecided : Undecided own) : Unanswered own :=
  fun entry member => (undecided entry member).1

theorem Undecided.snoc {own : RegistryTrace} {entry : RegistryEntry} (undecided : Undecided own)
    (other : outcomeOf entry = none) (unqueued : isQueued entry = false) :
    Undecided (own ++ [entry]) := by
  intro each member
  rcases List.mem_append.mp member with old | new
  · exact undecided each old
  · rw [List.mem_singleton.mp new]
    exact ⟨other, unqueued⟩

theorem Unanswered.earlier {early late : RegistryTrace} (grown : early <+: late)
    (unanswered : Unanswered late) : Unanswered early :=
  fun entry member => unanswered entry (grown.subset member)

theorem turns_enqueueAndReject (noted : Noted i start s) :
    Turns wiring.registry tid (GateLaw i) (GateEnds i) (enqueueAndReject wiring.remote i)
      start s := by
  unfold enqueueAndReject QueueService.enqueue
  split
  · refine ⟨.ofAside noted .queue, ?_⟩
    intro answer before after resumed performed
    have silent : arrived (s.told wiring.registry tid _ answer after resumed).trace = none :=
      arrived_snoc _ _
    cases answer with
    | ok jobId => exact .ofAside (noted_of_not_arrived silent) (.declined _ (.queued _))
    | failed applied reason =>
        exact .ofAside (noted_of_not_arrived silent) (.declined _ (.unqueued reason))
  · exact .ofAside noted (.declined _ (.unqueued _))

theorem turns_executeFallback (adapter : AdapterKind) (startTime : Nat) (cause : Option Exn)
    (noted : Noted i start s) :
    Turns wiring.registry tid (GateLaw i) (GateEnds i)
      (executeFallback i adapter startTime cause) start s := by
  unfold executeFallback
  dsimp only [Turns]
  split
  · exact .ofAside noted (.declined _ (.degraded _ rfl))
  · exact .ofAside noted (.declined _ (.failed _))

theorem turns_executeWithQueue (entry : PortEntry) (adapter : AdapterKind) (startTime : Nat)
    (cause : Option Exn) (noted : Noted i start s) :
    Turns wiring.registry tid (GateLaw i) (GateEnds i)
      (executeWithQueue wiring.remote i entry adapter startTime cause) start s := by
  unfold executeWithQueue
  split
  · exact turns_executeFallback adapter startTime cause noted
  · split
    · dsimp only [Turns]
      split
      · exact turns_enqueueAndReject noted
      · exact .ofAside noted (.declined _ (.degraded _ rfl))
    · exact turns_enqueueAndReject noted

/-- The adapter has answered, before the turn and at this point of it. -/
structure Decided (i : Invocation) (start s : RegistrySnapshot) : Prop where
  noted : Noted i start s
  before : ¬ Unanswered start.trace
  now : ¬ Unanswered s.trace

theorem GateLaw.ofDecided {stop : RegistryStop} (decided : Decided i start s)
    (other : ∀ ref context method params,
      stop ≠ .awaits (.inl (.adapter ref context method params))) : GateLaw i start stop s := by
  constructor
  · unfold breakersAfter
    split
    · exact absurd rfl (other _ _ _ _)
    · exact decided.noted
  · exact fun ref context method params same => absurd same (other _ _ _ _)
  · exact fun unanswered => absurd unanswered decided.before

/-- After a command of the cache the call is as far as before. -/
theorem decided_told {command : CacheCommand} {answer : command.Answer}
    {after resumed : World registryOnly} (decided : Decided i start s) :
    Decided i (s.told wiring.registry tid (.inl (.cache command)) answer after resumed)
      (s.told wiring.registry tid (.inl (.cache command)) answer after resumed) := by
  have now : ¬ Unanswered (s.told wiring.registry tid (.inl (.cache command)) answer after
      resumed).trace := fun unanswered => decided.now (unanswered.earlier (List.prefix_append _ _))
  exact ⟨noted_of_not_arrived (arrived_snoc _ _), now, now⟩

/-- What a successful call does after its breaker was told. -/
abbrev Goes (wiring : Wiring) (tid : Nat) (i : Invocation) (task : PortTask registryOnly Unit)
    (start s : RegistrySnapshot) : Prop :=
  Turns wiring.registry tid (GateLaw i)
    (fun result start last => result = .ok () ∧ Decided i start last) task start s

theorem Goes.andThen {first second : PortTask registryOnly Unit}
    (goes : Goes wiring tid i first start s)
    (next : ∀ start last, Decided i start last → Goes wiring tid i second start last) :
    Goes wiring tid i (first >>= fun _ => second) start s := by
  apply Turns.andThen goes
  · rintro error start last ⟨wrong, -⟩
    cases wrong
  · rintro value start last ⟨-, decided⟩
    exact next start last decided

theorem goes_set {key : String} {value : JsValue} {ttl : Option Nat} (decided : Decided i start s) :
    Goes wiring tid i (do
      let _ ← (CacheService.set key value ttl : PortTask registryOnly Unit).attempt
      return ()) start s := by
  unfold Goes
  rw [turns_bind, turns_attempt]
  refine ⟨.ofDecided decided (fun _ _ _ _ same => nomatch same), ?_⟩
  intro (answer : (CacheCommand.set key value ttl).Answer) before after resumed performed
  have onwards : Decided i
      (s.told wiring.registry tid (.inl (.cache (.set key value ttl))) answer after resumed)
      (s.told wiring.registry tid (.inl (.cache (.set key value ttl))) answer after resumed) :=
    decided_told decided
  cases answer with
  | ok value => exact ⟨rfl, onwards⟩
  | failed applied reason => exact ⟨rfl, onwards⟩

theorem goes_invalidatePort (decided : Decided i start s) :
    Goes wiring tid i (invalidatePort wiring.remote i) start s := by
  unfold invalidatePort
  split
  · exact ⟨rfl, decided.noted, decided.before, decided.now⟩
  · exact ⟨rfl, decided⟩

theorem goes_writeCache (entry : PortEntry) (data : JsValue) (decided : Decided i start s) :
    Goes wiring tid i (writeCache wiring.remote i entry data) start s := by
  unfold writeCache
  split
  · exact goes_set decided
  · exact ⟨rfl, decided⟩

theorem goes_fillSlot (data : JsValue) (decided : Decided i start s) :
    Goes wiring tid i (fillSlot i data) start s :=
  ⟨rfl, decided.noted, decided.before,
    fun unanswered => decided.now (unanswered.earlier (List.prefix_append _ _))⟩

theorem goes_recordResult (data : JsValue) (decided : Decided i start s) :
    Goes wiring tid i (recordResult wiring.remote i data) start s := by
  unfold recordResult
  split
  · split
    · exact goes_set decided
    · exact ⟨rfl, decided⟩
  · exact ⟨rfl, decided⟩

theorem goes_postProcess (entry : PortEntry) (data : JsValue) (decided : Decided i start s) :
    Goes wiring tid i (postProcess wiring.remote i entry data) start s := by
  have fromWrite (start s : RegistrySnapshot) (decided : Decided i start s) :
      Goes wiring tid i (do
        writeCache wiring.remote i entry data
        fillSlot i data
        recordResult wiring.remote i data) start s := by
    apply (goes_writeCache entry data decided).andThen
    intro start s decided
    apply (goes_fillSlot data decided).andThen
    intro start s decided
    exact goes_recordResult data decided
  unfold postProcess
  split
  · exact (goes_invalidatePort decided).andThen fromWrite
  · exact fromWrite start s decided

end Tails

/-! ### The way to the adapter -/

section Gate

variable {wiring : Wiring} {tid : Nat} {i : Invocation} {start s : RegistrySnapshot}

/-- The turn has changed nothing yet, and the call has neither asked its adapter nor the queue. -/
structure Before (start s : RegistrySnapshot) : Prop where
  still : s.state = start.state
  begun : Undecided start.trace
  now : Undecided s.trace

theorem Before.noted (before : Before start s) : Noted i start s := by
  rw [Noted, before.still]
  exact noted_of_not_arrived before.begun.unanswered.silent

/-- A lookup leads to a new turn, which has changed nothing yet. -/
theorem before_told {key : String} {answer : Reply JsValue} {after resumed : World registryOnly}
    (before : Before start s) :
    Before (s.told wiring.registry tid (.inl (.cache (.get key))) answer after resumed)
      (s.told wiring.registry tid (.inl (.cache (.get key))) answer after resumed) :=
  have now := before.now.snoc rfl rfl
  ⟨rfl, now, now⟩

theorem turns_callAdapter {α : Type} {post : Except Exn α → RegistrySnapshot → RegistrySnapshot → Prop}
    {adapter : AdapterKind} {rest : Except Exn JsValue → PortTask registryOnly α}
    (asks : GateLaw i start
      (.awaits (.inl (.adapter ⟨i.portName, adapter⟩ i.context i.method i.params))) s)
    (next : ∀ outcome start last, arrived start.trace = some outcome →
      last.state = start.state → ¬ Unanswered start.trace → ¬ Unanswered last.trace →
      Turns wiring.registry tid (GateLaw i) post (rest outcome) start last) :
    Turns wiring.registry tid (GateLaw i) post
      (callAdapter wiring.remote adapter i >>= rest) start s := by
  refine ⟨asks, ?_⟩
  intro (outcome : Except Exn JsValue) before after resumed performed
  let now : RegistrySnapshot := s.told wiring.registry tid
    (.inl (.adapter ⟨i.portName, adapter⟩ i.context i.method i.params)) outcome after resumed
  have told : arrived now.trace = some outcome := arrived_snoc s.trace _
  have asked : ¬ Unanswered now.trace := by
    intro unanswered
    have silent := unanswered.silent
    rw [told] at silent
    cases silent
  have marked : ¬ Unanswered (now.log wiring.registry tid
      (.marked (.inl (.settled adapter i outcome)))).trace :=
    fun unanswered => asked (unanswered.earlier (List.prefix_append _ _))
  cases outcome with
  | ok data => exact next _ _ _ told rfl asked marked
  | error error => exact next _ _ _ told rfl asked marked

theorem turns_executeThroughBreaker (entry : PortEntry) (adapter : AdapterKind) (startTime : Nat)
    (before : Before start s) :
    Turns wiring.registry tid (GateLaw i) (GateEnds i)
      (executeThroughBreaker wiring.remote i entry adapter startTime) start s := by
  unfold executeThroughBreaker
  rw [turns_read]
  split
  · exact turns_executeWithQueue entry adapter startTime none before.noted
  · rename_i admitted
    rw [turns_modify]
    apply turns_callAdapter
    · constructor
      · rw [before.still]
        rfl
      · intro ref context method params same
        refine ⟨⟨adapter, rfl⟩, ?_, before.begun⟩
        rw [← before.still]
        exact Bool.eq_false_iff.mpr admitted
      · exact fun _ => Or.inl ⟨adapter, rfl⟩
    · intro outcome start last told still asked now
      cases outcome with
      | ok data =>
          change Turns _ _ _ _ (postProcess wiring.remote i entry data >>= _) _ _
          have decided : Decided i start
              { last with state := noteSuccess i.portName last.state } := by
            refine ⟨?_, asked, now⟩
            rw [Noted, toldBreakers, told, still]
            rfl
          apply Turns.andThen (goes_postProcess entry data decided)
          · rintro error start last ⟨wrong, -⟩
            cases wrong
          · rintro value start last ⟨-, decided⟩
            exact .ofDecided decided (fun _ _ _ _ same => nomatch same)
      | error error =>
          change Turns _ _ _ _ (executeWithQueue wiring.remote i entry adapter startTime
            (some error)) _ _
          apply turns_executeWithQueue
          rw [Noted, toldBreakers, told, still]
          rfl

/-- After a lookup the call begins another turn, as far from its adapter as before. -/
theorem turns_get {α : Type} {post : Except Exn α → RegistrySnapshot → RegistrySnapshot → Prop}
    {key : String} {rest : JsValue → PortTask registryOnly α} (before : Before start s)
    (next : ∀ value now, Before now now →
      Turns wiring.registry tid (GateLaw i) post (rest value) now now) :
    Turns wiring.registry tid (GateLaw i) post (CacheService.get key >>= rest) start s := by
  refine ⟨.ofAside before.noted (.lookup key), ?_⟩
  intro (answer : Reply JsValue) earlier after resumed performed
  exact next (answer.getD .null) _ (before_told before)

theorem turns_hit {result : PortResult} (before : Before start s) (cached : result.fromCache = true)
    (healthy : result.degraded = false) :
    Turns wiring.registry tid (GateLaw i) (GateEnds i) (.done result) start s :=
  .ofAside before.noted (.spared _ (.hit result cached healthy))

theorem turns_executeThroughCache (entry : PortEntry) (adapter : AdapterKind) (startTime : Nat)
    (before : Before start s) :
    Turns wiring.registry tid (GateLaw i) (GateEnds i)
      (executeThroughCache wiring.remote i entry adapter startTime) start s := by
  unfold executeThroughCache
  split
  · apply turns_get before
    intro value now before
    rw [turns_read]
    split
    · exact turns_executeThroughBreaker entry adapter startTime before
    · exact turns_hit before rfl rfl
  · exact turns_executeThroughBreaker entry adapter startTime before

theorem turns_executeRegistered (entry : PortEntry) (adapter : AdapterKind) (startTime : Nat)
    (before : Before start s) :
    Turns wiring.registry tid (GateLaw i) (GateEnds i)
      (executeRegistered wiring.remote i entry adapter startTime) start s := by
  unfold executeRegistered
  split
  · split
    · apply turns_get before
      intro value now before
      rw [turns_read]
      split
      · exact turns_executeThroughCache entry adapter startTime before
      · exact turns_hit before rfl rfl
    · exact turns_executeThroughCache entry adapter startTime before
  · exact turns_executeThroughCache entry adapter startTime before

theorem turns_execute (before : Before start s) :
    Turns wiring.registry tid (GateLaw i) (GateEnds i) (execute wiring.remote i) start s := by
  unfold execute
  rw [turns_note, turns_read]
  have marked : Before start (s.log wiring.registry tid (.marked (.inl (.requested i)))) :=
    ⟨before.still, before.begun, before.now.snoc rfl rfl⟩
  split
  · exact .ofAside marked.noted (.spared _ .unregistered)
  · rename_i entry registered
    exact turns_executeRegistered entry _ _ marked

end Gate

/-! ### The other calls -/

section Others

variable (wiring : Wiring)

theorem leaves_adapter (ref : AdapterRef) (context : Option RequestContext) (method : String)
    (params : JsValue) :
    (wiring.remote.adapter ref context method params).Leaves World.circuitBreakers := by
  intro outcome
  cases (outcome : Except Exn JsValue) with
  | ok data => exact trivial
  | error error => exact trivial

theorem leaves_replay (payload : ReplayJobPayload) :
    (executeReplay wiring.remote payload).Leaves World.circuitBreakers := by
  refine ⟨fun _ => rfl, ?_⟩
  intro world
  simp only [Task.done_bind]
  split
  · exact trivial
  · unfold callAdapter
    apply Task.Leaves.bind
    · apply (leaves_adapter wiring _ _ _ _).attempt.bind
      exact fun _ => trivial
    · intro outcome
      cases outcome with
      | ok data => exact ⟨fun _ => rfl, fun _ => trivial⟩
      | error error => exact trivial

theorem leaves_deleteByPattern (kind : BackendKind) (pattern : String) :
    (CacheService.deleteByPattern kind pattern : PortTask registryOnly Nat).Leaves
      World.circuitBreakers := by
  cases kind with
  | memory => exact fun _ => trivial
  | redis =>
      intro answer
      cases (answer : Reply (List String)) with
      | failed applied reason => exact trivial
      | ok fullKeys =>
          cases fullKeys with
          | nil => exact trivial
          | cons first rest =>
              intro answer
              cases (answer : Reply Unit) with
              | failed applied reason => exact trivial
              | ok done => exact trivial

theorem leaves_enqueue (payload : ReplayJobPayload) :
    (QueueService.enqueue wiring.remote payload).Leaves World.circuitBreakers := by
  unfold QueueService.enqueue
  split
  · intro answer
    cases (answer : Reply (Option String)) with
    | ok jobId => exact trivial
    | failed applied reason => exact trivial
  · exact trivial

/-- Every call of the registry takes lawful turns. -/
theorem gate_lawful : TurnLawful wiring.registry gateLaw := by
  intro tid call time state
  have begun : Undecided [⟨tid, time, .started call⟩] := by
    intro entry member
    rw [List.mem_singleton.mp member]
    exact ⟨rfl, rfl⟩
  rcases call with (i | payload | cause | cause) | call
  · change Turns wiring.registry tid (GateLaw i)
      (EndsLawfully gateLaw (.inl (.execute i)))
      (execute wiring.remote i >>= fun result => .done (Resolution.port result)) _ _
    rw [turns_bind]
    apply (turns_execute ⟨rfl, begun, begun⟩).mono
    intro result start last ends
    cases result with
    | ok result => exact ends
    | error error => exact ends
  · have leaves : (portBody wiring.remote (.replay payload)).Leaves World.circuitBreakers := by
      refine ⟨fun _ => rfl, ?_⟩
      intro world
      change Task.Leaves World.circuitBreakers
        ((if payload ∈ world.jobs then _ else _ : PortTask registryOnly Resolution))
      split
      · exact (leaves_replay wiring payload).bind fun _ => trivial
      · exact trivial
    exact leaves.turns rfl
  · have leaves : (portBody wiring.remote (.invalidate cause)).Leaves World.circuitBreakers :=
      (leaves_deleteByPattern _ _).attempt.bind fun _ => trivial
    exact leaves.turns rfl
  · have leaves : (portBody wiring.remote (.refresh cause)).Leaves World.circuitBreakers :=
      (leaves_enqueue wiring _).attempt.bind fun _ => trivial
    exact leaves.turns rfl
  · exact call.elim

end Others

/-! ### Runs -/

/-- The breaker is closed or half open, or the time to reset has passed since its state changed. -/
def Passable (world : World registryOnly) (portName : String) : Prop :=
  ∀ breaker, world.circuitBreakers.get? portName = some breaker →
    breaker.state = .closed ∨ breaker.state = .halfOpen ∨
      breaker.options.resetTimeout ≤ world.now - breaker.stateChangedAt

theorem passable_of_admitted {world : World registryOnly} {portName : String}
    (admitted : rejectsNow world portName = false) : Passable world portName := by
  intro breaker found
  rw [rejectsNow, found, Option.any_some, Bool.and_eq_false_iff, decide_eq_false_iff_not] at admitted
  cases state : breaker.state with
  | closed => exact Or.inl rfl
  | halfOpen => exact Or.inr (Or.inl rfl)
  | «open» =>
      right
      right
      have due := admitted.resolve_left (not_not.mpr state)
      simp only [CircuitBreakerState.shouldAttemptReset, state, decide_true, Bool.true_and,
        Bool.not_eq_false', decide_eq_true_eq] at due
      apply le_trans _ due
      unfold orDefault
      split
      · rename_i zero
        rw [zero]
        exact Nat.zero_le _
      · exact le_refl _

theorem admitted_of_passable {world : World registryOnly} {portName : String}
    (closed : ¬ Passable world portName) : rejectsNow world portName = true := by
  unfold Passable at closed
  push Not at closed
  obtain ⟨breaker, found, notClosed, notTrial, young⟩ := closed
  have state : breaker.state = .open := by
    cases same : breaker.state with
    | closed => exact absurd same notClosed
    | halfOpen => exact absurd same notTrial
    | «open» => rfl
  have positive : breaker.options.resetTimeout ≠ 0 := Nat.pos_iff_ne_zero.mp (Nat.zero_lt_of_lt young)
  simp [rejectsNow, found, state, CircuitBreakerState.shouldAttemptReset, orDefault, positive, young]

/-- A turn that leaves every breaker as it is and takes the call to the queue or the fallback,
or to another lookup or a hit. -/
def TurnedAside (wiring : Wiring) (p next : Pool (portSignature registryOnly) Resolution) (tid : Nat)
    (i : Invocation) : Prop :=
  next.snapshot.state.circuitBreakers = p.snapshot.state.circuitBreakers ∧
    ∃ stop last, Stopped wiring.registry next tid (.inl (.execute i)) last stop ∧ Aside i stop

section Runs

variable {wiring : Wiring} {world : World registryOnly}
  {p next : Pool (portSignature registryOnly) Resolution} {tid : Nat} {i : Invocation}

/-- A call comes to wait for its adapter only where the breaker lets it. -/
theorem starts_admitted (reached : Reachable wiring.registry world p)
    {action : Action (portSignature registryOnly) PortExternal}
    (stepped : p.step wiring.registry action = some next) {ref : AdapterRef}
    {context : Option RequestContext} {method : String} {params : JsValue}
    {rest : Except Exn JsValue → PortTask registryOnly Resolution}
    (waits : next.threads[tid]? = some (.running (.inl (.execute i))
      (.await (.inl (.adapter ref context method params)) rest)))
    (starts : p.threads[tid]? ≠ next.threads[tid]?) :
    AsksAdapter i (.awaits (.inl (.adapter ref context method params))) ∧
      rejectsNow p.snapshot.state i.portName = false := by
  rcases reached.comes_to_await (gate_lawful wiring) stepped waits with
    waited | ⟨-, -, obeyed⟩ | always
  · exact absurd (waited.trans waits.symm) starts
  · have asked := (show GateLaw i _ _ _ from obeyed).starts _ _ _ _ rfl
    exact ⟨asked.1, asked.2.1⟩
  · have asked := (show GateLaw i _ _ _ from always p.snapshot.state).starts _ _ _ _ rfl
    exact ⟨asked.1, asked.2.1⟩

/-- A call without an outcome that meets an open breaker, or has been queued, goes on without
its adapter. -/
theorem turned_aside (reached : Reachable wiring.registry world p)
    {task : PortTask registryOnly Resolution}
    (found : p.threads[tid]? = some (.running (.inl (.execute i)) task))
    (ready : ∀ request rest, task ≠ .await request rest)
    (stepped : p.step wiring.registry (.resume tid) = some next)
    (unanswered : Unanswered (ownEntries tid p.snapshot.trace))
    (declined : rejectsNow p.snapshot.state i.portName = true ∨
      ∃ entry ∈ ownEntries tid p.snapshot.trace, isQueued entry = true) :
    TurnedAside wiring p next tid i := by
  obtain ⟨stop, last, stopped, obeyed⟩ :=
    reached.turn (gate_lawful wiring) found ready stepped
  have obeyed : GateLaw i (p.snapshot.own tid) stop (last.own tid) := obeyed
  have notAsked : ¬ AsksAdapter i stop := by
    rintro ⟨kind, rfl⟩
    obtain ⟨-, admitted, undecided⟩ := obeyed.starts _ _ _ _ rfl
    rcases declined with rejected | ⟨entry, member, queued⟩
    · cases rejected.symm.trans admitted
    · cases queued.symm.trans (undecided entry member).2
  have aside := (obeyed.aside unanswered).resolve_left notAsked
  refine ⟨?_, stop, last, stopped, aside⟩
  have told : toldBreakers i.portName (p.snapshot.own tid) = p.snapshot.state.circuitBreakers := by
    have silent : arrived (p.snapshot.own tid).trace = none := Unanswered.silent unanswered
    rw [toldBreakers, silent]
    rfl
  rw [stopped.state_eq]
  change (last.own tid).state.circuitBreakers = _
  rw [obeyed.breakers, ← told]
  cases aside with
  | lookup key => rfl
  | queue => rfl
  | spared result spares => rfl
  | declined result declined => rfl

/-- In every run a call starts its adapter only at a breaker that is closed, half open or due;
until then it is turned aside, and stays so once it was queued. -/
theorem no_call_through_open_breaker (reached : Reachable wiring.registry world p)
    {action : Action (portSignature registryOnly) PortExternal}
    (stepped : p.step wiring.registry action = some next) :
    (∀ ref context method params rest,
        next.threads[tid]? = some (.running (.inl (.execute i))
          (.await (.inl (.adapter ref context method params)) rest)) →
        p.threads[tid]? ≠ next.threads[tid]? →
          ref.portName = i.portName ∧ Passable p.snapshot.state i.portName) ∧
      ∀ task, action = .resume tid →
        p.threads[tid]? = some (.running (.inl (.execute i)) task) →
        (∀ request rest, task ≠ .await request rest) →
        Unanswered (ownEntries tid p.snapshot.trace) →
        (¬ Passable p.snapshot.state i.portName ∨
          ∃ entry ∈ ownEntries tid p.snapshot.trace, isQueued entry = true) →
          TurnedAside wiring p next tid i := by
  constructor
  · intro ref context method params rest waits starts
    obtain ⟨⟨kind, same⟩, admitted⟩ := starts_admitted reached stepped waits starts
    cases same
    exact ⟨rfl, passable_of_admitted admitted⟩
  · rintro task rfl found ready unanswered declined
    exact turned_aside reached found ready stepped unanswered
      (declined.imp_left admitted_of_passable)

end Runs

/-- Redis is configured.  The hashes matter to no run below. -/
def gateWiring : Wiring :=
  .configured true (fun _ => ⟨"e3b0c44298fc1c14", isHex_empty⟩)
    fun _ => ⟨"d29ad42d4a509ebb", isHex_params⟩

/-- The port of payments is registered, and its breaker has just opened. -/
def openWorld : World registryOnly :=
  setBreaker "payment" (CircuitBreakerState.open 1700000000000)
    (registerAll ["payment"] (bareWorld 1700000000000 .empty apiEndpoints ()))

def openCharge : Invocation := ⟨none, "payment", "create-payment", .obj [], none⟩

def chargeCalled : Pool (portSignature registryOnly) Resolution where
  snapshot := ⟨openWorld, [⟨0, openWorld.now, .started (.inl (.execute openCharge))⟩]⟩
  threads := [.running (.inl (.execute openCharge))
    (gateWiring.registry.body (.inl (.execute openCharge)))]

def chargeResumed : Pool (portSignature registryOnly) Resolution :=
  (chargeCalled.step gateWiring.registry (.resume 0)).getD chargeCalled

theorem no_call_through_open_breaker_payment :
    TurnedAside gateWiring chargeCalled chargeResumed 0 openCharge := by
  have called : Reachable gateWiring.registry openWorld chargeCalled :=
    ⟨[.call (.inl (.execute openCharge))], rfl⟩
  have stepped : chargeCalled.step gateWiring.registry (.resume 0) = some chargeResumed := rfl
  apply (no_call_through_open_breaker called stepped).2 _ rfl rfl
  · intro request rest same
    cases same
  · intro entry member
    rw [List.mem_singleton.mp member]
    rfl
  · left
    intro passable
    rcases passable _ rfl with closed | trial | due
    · cases closed
    · cases trial
    · revert due
      decide

end SelfService
