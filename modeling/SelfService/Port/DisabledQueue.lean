/-
The queue tier without Redis.

The queue service is injected whether or not it is enabled, and the registry asks
only whether it is there.  A port that is queued differs from one that is not as
soon as one of its adapter calls fails.
-/

import SelfService.EventLoop.Parting
import SelfService.Port.HotReload

namespace SelfService

open Data EventLoop PortRegistry

/-! ### Policies -/

/-- The port with the queue policy `never`. -/
def PortEntry.unqueued (entry : PortEntry) : PortEntry :=
  { entry with config := { entry.config with queuePolicy := .never } }

def unqueuedPorts (ports : OrderedMap String PortEntry) : OrderedMap String PortEntry where
  entries := ports.entries.map fun entry => (entry.1, entry.2.unqueued)
  distinct := by
    rw [List.map_map]
    exact ports.distinct

theorem get?_unqueuedPorts (ports : OrderedMap String PortEntry) (name : String) :
    (unqueuedPorts ports).get? name = (ports.get? name).map PortEntry.unqueued := by
  have looked (entries : List (String × PortEntry)) :
      OrderedMap.lookupIn name (entries.map fun entry => (entry.1, entry.2.unqueued)) =
        (OrderedMap.lookupIn name entries).map PortEntry.unqueued := by
    induction entries with
    | nil => rfl
    | cons head rest ih =>
        by_cases same : head.1 = name
        · simp [OrderedMap.lookupIn, same]
        · simp [OrderedMap.lookupIn, same, ih]
  exact looked ports.entries

/-- The port has a policy other than `never`. -/
def queued (ports : OrderedMap String PortEntry) (name : String) : Bool :=
  (ports.get? name).any fun entry => entry.config.queuePolicy ≠ .never

/-- An adapter call of such a port failed. -/
def failsQueued (ports : OrderedMap String PortEntry) (label : (portSignature registryOnly).Mark) :
    Bool :=
  match label with
  | .inl (.settled _ i (.error _)) => queued ports i.portName
  | _ => false

/-- The worlds differ in the policies of their ports only, and no breaker of a port that is
queued has opened. -/
structure PolicyTwin (ports : OrderedMap String PortEntry) (world twin : World registryOnly) :
    Prop where
  registered : world.ports = ports
  twin : twin = { world with ports := unqueuedPorts ports }
  calm : ∀ name, queued ports name = true → ∀ breaker,
    world.circuitBreakers.get? name = some breaker → breaker.state = .closed

abbrev Keeps (ports : OrderedMap String PortEntry) {α : Type}
    (task other : PortTask registryOnly α) : Prop :=
  task.Matches (PolicyTwin ports) (failsQueued ports) other

section Breakers

variable {ports : OrderedMap String PortEntry} {world twin : World registryOnly}

/-- What breakers of queued ports take in while they are closed. -/
theorem PolicyTwin.setBreaker (related : PolicyTwin ports world twin) (portName : String)
    {change : CircuitBreakerState → CircuitBreakerState}
    (closed : queued ports portName = true → ∀ breaker, breaker.state = .closed →
      (change breaker).state = .closed) :
    PolicyTwin ports (PortRegistry.setBreaker portName change world)
      (PortRegistry.setBreaker portName change twin) := by
  obtain ⟨registered, rfl, calm⟩ := related
  unfold PortRegistry.setBreaker
  dsimp only
  cases found : world.circuitBreakers.get? portName with
  | none => exact ⟨registered, rfl, calm⟩
  | some breaker =>
      refine ⟨registered, rfl, ?_⟩
      intro name isQueued other there
      by_cases same : portName = name
      · subst same
        simp only [OrderedMap.get?_set_self, Option.some.injEq] at there
        rw [← there]
        exact closed isQueued breaker (calm portName isQueued breaker found)
      · simp only [OrderedMap.get?_set_of_ne _ _ same] at there
        exact calm name isQueued other there

theorem PolicyTwin.admitProbe (related : PolicyTwin ports world twin) (portName : String) :
    PolicyTwin ports (PortRegistry.admitProbe portName world)
      (PortRegistry.admitProbe portName twin) := by
  obtain ⟨registered, rfl, calm⟩ := related
  apply PolicyTwin.setBreaker ⟨registered, rfl, calm⟩
  intro _ breaker closed
  simp [closed]

theorem PolicyTwin.noteSuccess (related : PolicyTwin ports world twin) (portName : String) :
    PolicyTwin ports (PortRegistry.noteSuccess portName world)
      (PortRegistry.noteSuccess portName twin) := by
  obtain ⟨registered, rfl, calm⟩ := related
  apply PolicyTwin.setBreaker ⟨registered, rfl, calm⟩
  intro _ breaker closed
  simp only [CircuitBreakerState.recordSuccess, closed]
  unfold CircuitBreakerState.cleanupOldRequests
  split
  · split <;> rfl
  · split <;> rfl

theorem PolicyTwin.noteFailure (related : PolicyTwin ports world twin) {portName : String}
    (unqueued : queued ports portName = false) (error : Exn) :
    PolicyTwin ports (PortRegistry.noteFailure portName error world)
      (PortRegistry.noteFailure portName error twin) := by
  obtain ⟨registered, rfl, calm⟩ := related
  apply PolicyTwin.setBreaker ⟨registered, rfl, calm⟩
  intro isQueued
  rw [unqueued] at isQueued
  cases isQueued

theorem PolicyTwin.rejectsNow (related : PolicyTwin ports world twin) (portName : String) :
    PortRegistry.rejectsNow world portName = PortRegistry.rejectsNow twin portName := by
  obtain ⟨-, rfl, -⟩ := related
  rfl

theorem PolicyTwin.admits (related : PolicyTwin ports world twin) {portName : String}
    (isQueued : queued ports portName = true) : PortRegistry.rejectsNow world portName = false := by
  unfold PortRegistry.rejectsNow
  cases found : world.circuitBreakers.get? portName with
  | none => rfl
  | some breaker =>
      have closed := related.calm portName isQueued breaker found
      simp [closed]

end Breakers

/-! ### The code with either policy -/

section Code

variable {wiring : Wiring} {ports : OrderedMap String PortEntry} {i : Invocation}
  {entry : PortEntry}

/-- Tasks that read no port and no breaker. -/
theorem keeps_sync {α : Type} {update : World registryOnly → World registryOnly}
    {next onwards : World registryOnly → PortTask registryOnly α}
    (kept : ∀ world ports, update { world with ports := ports } =
      { update world with ports := ports })
    (leaves : ∀ world, (update world).ports = world.ports ∧
      (update world).circuitBreakers = world.circuitBreakers)
    (later : ∀ world, Keeps ports (next world)
      (onwards { world with ports := unqueuedPorts ports })) :
    Keeps ports (EventLoop.Task.sync (S := portSignature registryOnly) update next)
      (EventLoop.Task.sync (S := portSignature registryOnly) update onwards) := by
  rintro world _ ⟨registered, rfl, calm⟩
  refine ⟨⟨?_, kept _ _, ?_⟩, later world⟩
  · rw [(leaves world).1, registered]
  · rw [(leaves world).2]
    exact calm

theorem keeps_read {α : Type} {next onwards : World registryOnly → PortTask registryOnly α}
    (later : ∀ world, Keeps ports (next world)
      (onwards { world with ports := unqueuedPorts ports })) :
    Keeps ports (EventLoop.Task.sync (S := portSignature registryOnly) id next)
      (EventLoop.Task.sync (S := portSignature registryOnly) id onwards) :=
  keeps_sync (fun _ _ => rfl) (fun _ => ⟨rfl, rfl⟩) later

/-- A task that touches no memory. -/
theorem keeps_of_untouched {α : Type} {task : PortTask registryOnly α}
    (untouched : task.Updates fun _ => False) : Keeps ports task task := by
  induction task with
  | done value => rfl
  | fail error => rfl
  | sync update next ih => exact untouched.1.elim
  | mark label next ih => exact ⟨rfl, Or.inr (ih untouched)⟩
  | fork call next ih => exact ⟨rfl, ih untouched⟩
  | await request next ih => exact ⟨rfl, fun answer => ih answer (untouched answer)⟩

theorem keeps_executeFallback (adapter : AdapterKind) (startTime : Nat) (cause : Option Exn) :
    Keeps ports (executeFallback i adapter startTime cause)
      (executeFallback i adapter startTime cause) := by
  apply keeps_read
  intro world
  have same : FallbackProvider.execute { world with ports := unqueuedPorts ports } =
      FallbackProvider.execute world := rfl
  simp only [same]
  split
  · exact ⟨rfl, Or.inr rfl⟩
  · rfl

/-- A port that is not queued falls back with either policy. -/
theorem keeps_executeWithQueue (never : entry.config.queuePolicy = .never) (adapter : AdapterKind)
    (startTime : Nat) (cause : Option Exn) :
    Keeps ports (PortRegistry.executeWithQueue wiring.remote i entry adapter startTime cause)
      (PortRegistry.executeWithQueue wiring.remote i entry.unqueued adapter startTime cause) := by
  have also : entry.unqueued.config.queuePolicy = .never := rfl
  unfold PortRegistry.executeWithQueue
  rw [if_pos (Or.inl never), if_pos (Or.inl also)]
  exact keeps_executeFallback adapter startTime cause

theorem keeps_fillSlot (data : JsValue) : Keeps ports (fillSlot i data) (fillSlot i data) :=
  keeps_sync (fun _ _ => rfl) (fun _ => ⟨rfl, rfl⟩) fun _ => ⟨rfl, Or.inr rfl⟩

theorem keeps_postProcess (data : JsValue) :
    Keeps ports (PortRegistry.postProcess wiring.remote i entry data)
      (PortRegistry.postProcess wiring.remote i entry.unqueued data) := by
  have invalidated : Keeps ports (invalidatePort wiring.remote i)
      (invalidatePort wiring.remote i) := by
    unfold invalidatePort
    split
    · exact keeps_sync (fun _ _ => rfl) (fun _ => ⟨rfl, rfl⟩) fun _ => rfl
    · exact ⟨rfl, rfl⟩
  have written : Keeps ports (writeCache wiring.remote i entry data)
      (writeCache wiring.remote i entry.unqueued data) := by
    have same : PortRegistry.shouldCache entry.unqueued i.method =
        PortRegistry.shouldCache entry i.method := rfl
    unfold writeCache
    rw [same]
    split
    · exact keeps_read fun _ => keeps_of_untouched (updates_store _ _ _)
    · rfl
  have recorded : Keeps ports (recordResult wiring.remote i data)
      (recordResult wiring.remote i data) := by
    unfold recordResult
    split
    · split
      · exact keeps_of_untouched (updates_store _ _ _)
      · rfl
    · rfl
  have stored : Keeps ports (do
      writeCache wiring.remote i entry data
      fillSlot i data
      recordResult wiring.remote i data) (do
      writeCache wiring.remote i entry.unqueued data
      fillSlot i data
      recordResult wiring.remote i data) :=
    written.bind fun _ => (keeps_fillSlot data).bind fun _ => recorded
  unfold PortRegistry.postProcess
  split
  · exact invalidated.bind fun _ => stored
  · exact stored

/-- An adapter call of a queued port that fails is where the policies part. -/
theorem keeps_callAdapter {α : Type} (adapter : AdapterKind)
    {rest onwards : Except Exn JsValue → PortTask registryOnly α}
    (later : ∀ outcome, failsQueued ports (.inl (.settled adapter i outcome)) = true ∨
      Keeps ports (rest outcome) (onwards outcome)) :
    Keeps ports (callAdapter wiring.remote adapter i >>= rest)
      (callAdapter wiring.remote adapter i >>= onwards) := by
  refine ⟨rfl, fun (answer : Except Exn JsValue) => ?_⟩
  cases answer with
  | ok data => exact ⟨rfl, later (.ok data)⟩
  | error error => exact ⟨rfl, later (.error error)⟩

theorem queued_of_known (known : ports.get? i.portName = some entry) :
    queued ports i.portName = true ↔ entry.config.queuePolicy ≠ .never := by
  unfold queued
  rw [known]
  simp

/-- Without a failure a queued port is not told from one that is not. -/
theorem keeps_executeThroughBreaker (known : ports.get? i.portName = some entry)
    (adapter : AdapterKind) (startTime : Nat) :
    Keeps ports (PortRegistry.executeThroughBreaker wiring.remote i entry adapter startTime)
      (PortRegistry.executeThroughBreaker wiring.remote i entry.unqueued adapter startTime) := by
  intro world twin related
  refine ⟨related, ?_⟩
  change Keeps ports (if rejectsNow world i.portName = true then _ else _)
    (if rejectsNow twin i.portName = true then _ else _)
  rw [← related.rejectsNow]
  split
  · rename_i rejects
    have never : entry.config.queuePolicy = .never := by
      by_contra policy
      rw [related.admits ((queued_of_known known).mpr policy)] at rejects
      cases rejects
    exact keeps_executeWithQueue never adapter startTime none
  · intro before after related
    refine ⟨related.admitProbe i.portName, ?_⟩
    change Keeps ports (callAdapter wiring.remote adapter i >>= _)
      (callAdapter wiring.remote adapter i >>= _)
    refine keeps_callAdapter adapter fun outcome => ?_
    cases outcome with
    | ok data =>
        right
        apply keeps_read
        intro world before after related
        exact ⟨related.noteSuccess i.portName, (keeps_postProcess data).bind fun _ => rfl⟩
    | error error =>
        by_cases never : entry.config.queuePolicy = .never
        · right
          intro before after related
          have unqueued : queued ports i.portName = false := by
            rw [Bool.eq_false_iff, Ne, queued_of_known known]
            exact not_not_intro never
          exact ⟨related.noteFailure unqueued error,
            keeps_executeWithQueue never adapter startTime (some error)⟩
        · left
          exact (queued_of_known known).mpr never

theorem keeps_executeThroughCache (known : ports.get? i.portName = some entry)
    (adapter : AdapterKind) (startTime : Nat) :
    Keeps ports (executeThroughCache wiring.remote i entry adapter startTime)
      (executeThroughCache wiring.remote i entry.unqueued adapter startTime) := by
  have same : PortRegistry.shouldCache entry.unqueued i.method =
      PortRegistry.shouldCache entry i.method := rfl
  unfold executeThroughCache
  rw [same]
  split
  · refine ⟨rfl, fun (reply : Reply JsValue) => ?_⟩
    apply keeps_read
    intro world
    change Keeps ports (if (reply.getD .null).isNullish = true then _ else _)
      (if (reply.getD .null).isNullish = true then _ else _)
    split
    · exact keeps_executeThroughBreaker known adapter startTime
    · rfl
  · exact keeps_executeThroughBreaker known adapter startTime

theorem keeps_executeRegistered (known : ports.get? i.portName = some entry)
    (adapter : AdapterKind) (startTime : Nat) :
    Keeps ports (PortRegistry.executeRegistered wiring.remote i entry adapter startTime)
      (PortRegistry.executeRegistered wiring.remote i entry.unqueued adapter startTime) := by
  unfold PortRegistry.executeRegistered
  split
  · split
    · refine ⟨rfl, fun (reply : Reply JsValue) => ?_⟩
      apply keeps_read
      intro world
      change Keeps ports (if (reply.getD .null).isNullish = true then _ else _)
        (if (reply.getD .null).isNullish = true then _ else _)
      split
      · exact keeps_executeThroughCache known adapter startTime
      · rfl
    · exact keeps_executeThroughCache known adapter startTime
  · exact keeps_executeThroughCache known adapter startTime

theorem keeps_execute : Keeps ports (execute wiring.remote i) (execute wiring.remote i) := by
  refine ⟨rfl, Or.inr ?_⟩
  rintro world _ ⟨registered, rfl, calm⟩
  refine ⟨⟨registered, rfl, calm⟩, ?_⟩
  simp only [Task.done_bind]
  rw [registered, get?_unqueuedPorts]
  cases known : ports.get? i.portName with
  | none => rfl
  | some entry => exact keeps_executeRegistered known _ _

theorem keeps_executeReplay (payload : ReplayJobPayload) :
    Keeps ports (executeReplay wiring.remote payload) (executeReplay wiring.remote payload) := by
  rintro world _ ⟨registered, rfl, calm⟩
  refine ⟨⟨registered, rfl, calm⟩, ?_⟩
  simp only [Task.done_bind]
  rw [registered, get?_unqueuedPorts]
  cases ports.get? payload.portName with
  | none => rfl
  | some entry =>
      change Keeps ports (callAdapter wiring.remote .live payload.invocation >>= _)
        (callAdapter wiring.remote .live payload.invocation >>= _)
      refine keeps_callAdapter .live fun outcome => Or.inr ?_
      cases outcome with
      | ok data => exact (keeps_fillSlot data).bind fun _ => rfl
      | error error => rfl

theorem keeps_portBody (call : PortCall) :
    Keeps ports (portBody wiring.remote call) (portBody wiring.remote call) := by
  cases call with
  | execute i => exact keeps_execute.bind fun _ => rfl
  | replay payload =>
      apply keeps_read
      intro world
      change Keeps ports (if payload ∈ world.jobs then _ else _)
        (if payload ∈ world.jobs then _ else _)
      split
      · exact (keeps_executeReplay payload).bind fun _ => rfl
      · rfl
  | invalidate cause =>
      exact (keeps_of_untouched (updates_deleteByPattern _ _)).attempt.bind fun _ => rfl
  | refresh cause =>
      exact (keeps_of_untouched (updates_enqueue wiring _)).attempt.bind fun _ => rfl

end Code

/-! ### Runs with either policy -/

section Runs

variable {wiring : Wiring} {ports : OrderedMap String PortEntry}

theorem policyTwin_of_frame {world : World registryOnly}
    {first second : Option (World registryOnly)}
    (same : second = first.map fun after => { after with ports := unqueuedPorts ports })
    (leaves : ∀ after, first = some after →
      after.ports = world.ports ∧ after.circuitBreakers = world.circuitBreakers)
    (registered : world.ports = ports)
    (calm : ∀ name, queued ports name = true → ∀ breaker,
      world.circuitBreakers.get? name = some breaker → breaker.state = .closed) :
    Option.Rel (PolicyTwin ports) first second := by
  subst same
  cases first with
  | none => exact .none
  | some after =>
      obtain ⟨samePorts, sameBreakers⟩ := leaves after rfl
      refine .some ⟨samePorts.trans registered, rfl, ?_⟩
      rw [sameBreakers]
      exact calm

/-- The registry goes on alike with either policy until an adapter call of a queued port fails. -/
theorem paired_policies : Paired wiring.registry (PolicyTwin ports) (failsQueued ports) := by
  constructor
  · rintro (call | call)
    · exact keeps_portBody call
    · exact call.elim
  · rintro world _ request answer ⟨registered, rfl, calm⟩
    apply policyTwin_of_frame _ _ registered calm
    · rcases request with (command | ref | payload) | request
      · change performPort wiring.remote _ (.cache command) answer =
          (performPort wiring.remote world (.cache command) answer).map _
        unfold performPort
        dsimp only
        split
        · simp only [Option.map_map]
          rfl
        · rfl
      · rfl
      · cases (answer : Reply (Option String)) with
        | ok jobId => rfl
        | failed applied reason => cases applied <;> rfl
      · exact request.elim
    · intro after performed
      obtain ⟨cache, jobs, rfl⟩ := answer_leaves performed
      exact ⟨rfl, rfl⟩
  · rintro world _ event ⟨registered, rfl, calm⟩
    apply policyTwin_of_frame _ _ registered calm
    · cases event with
      | tick millis => rfl
      | evict fullKey =>
          change World.external wiring.remote _ (.evict fullKey) =
            (World.external wiring.remote world (.evict fullKey)).map _
          unfold World.external
          dsimp only
          split <;> rfl
      | reload mock endpoints => rfl
    · intro after moved
      have moved : World.external wiring.remote world event = some after := moved
      rcases external_cases moved with
        ⟨millis, rfl⟩ | ⟨fullKey, -, rfl⟩ | ⟨mock, endpoints, rfl⟩ <;> exact ⟨rfl, rfl⟩
  · rintro world _ ⟨-, rfl, -⟩
    rfl

/-- The registry with every queue policy set to `never`. -/
def neverQueued (world : World registryOnly) : World registryOnly :=
  { world with ports := unqueuedPorts world.ports }

/-- A registration creates its breaker closed. -/
theorem closed_registerAll (names : List String) :
    ∀ world : World registryOnly,
      (∀ name breaker, world.circuitBreakers.get? name = some breaker → breaker.state = .closed) →
        ∀ name breaker, (registerAll names world).circuitBreakers.get? name = some breaker →
          breaker.state = .closed := by
  induction names with
  | nil => exact fun _ closed => closed
  | cons first rest ih =>
      intro world closed
      apply ih (register first world)
      intro name breaker there
      by_cases same : first = name
      · subst same
        have own := (OrderedMap.get?_set_self _ _ _).symm.trans there
        rw [← Option.some.inj own]
        rfl
      · exact closed name breaker ((OrderedMap.get?_set_of_ne _ _ same).symm.trans there)

/-- While no adapter call of a queued port fails, the registry returns and throws what it would
with every policy set to `never`. -/
theorem disabled_as_never {names : List String} {now : Nat} {cache : Store}
    {endpoints : OrderedMap String PortEndpointConfig}
    {schedule : List (Action (portSignature registryOnly) PortExternal)}
    {p : Pool (portSignature registryOnly) Resolution}
    (ran : (Pool.initial (registerAll names (bareWorld now cache endpoints ()))).run
      wiring.registry schedule = some p)
    (healthy : Together (failsQueued (registerAll names (bareWorld now cache endpoints () :
      World registryOnly)).ports) p.snapshot.trace) :
    ∃ q, (Pool.initial (neverQueued (registerAll names (bareWorld now cache endpoints ())))).run
        wiring.registry schedule = some q ∧ p.snapshot.trace = q.snapshot.trace := by
  have calm := closed_registerAll names (bareWorld now cache endpoints ()) nofun
  have start : Pool.Matches (PolicyTwin _)
      (failsQueued (registerAll names (bareWorld now cache endpoints () :
        World registryOnly)).ports)
      (Pool.initial (registerAll names (bareWorld now cache endpoints ())))
      (Pool.initial (ρ := Resolution)
        (neverQueued (registerAll names (bareWorld now cache endpoints ())))) :=
    ⟨⟨⟨rfl, rfl, fun name _ => calm name⟩, rfl⟩, .nil⟩
  obtain ⟨q, also, ended⟩ := start.run paired_policies schedule ran healthy
  exact ⟨q, also, ended.snapshot.trace⟩

end Runs

/-! ### Payments without Redis -/

def wiringWithoutRedis : Wiring :=
  .configured false (fun _ => ⟨"e3b0c44298fc1c14", isHex_empty⟩)
    fun _ => ⟨"d29ad42d4a509ebb", isHex_params⟩

/-- A payment whose adapter settles. -/
def chargeSettles (outcome : Except Exn JsValue) :
    List (Action (portSignature registryOnly) PortExternal) :=
  [.call (.inl (.execute openCharge)), .resume 0,
    .answer 0 (.inl (.adapter ⟨"payment", .mock⟩ none "create-payment" (.obj []))) outcome,
    .resume 0]

def chargeSettled (outcome : Except Exn JsValue) : Pool (portSignature registryOnly) Resolution :=
  ((Pool.initial payingWorld).run wiringWithoutRedis.registry (chargeSettles outcome)).getD
    (Pool.initial payingWorld)

theorem disabled_as_never_paid :
    ∃ q, (Pool.initial (neverQueued payingWorld)).run wiringWithoutRedis.registry
        (chargeSettles (.ok (.str "PAY-1"))) = some q ∧
      (chargeSettled (.ok (.str "PAY-1"))).snapshot.trace = q.snapshot.trace :=
  disabled_as_never (p := chargeSettled (.ok (.str "PAY-1"))) rfl (together_of_all rfl)

/-- What callers got thrown. -/
def thrown (trace : EventLoop.Trace (portSignature registryOnly) Resolution) : List Exn :=
  trace.filterMap fun entry =>
    match entry.event with
    | .finished _ (.error error) => some error
    | _ => none

/-- A payment that times out says that the queue tier is disabled. -/
theorem disabled_is_not_never :
    ¬ ∀ wiring : Wiring, wiring.queueService = some false →
      ∀ names now cache endpoints schedule (p : Pool (portSignature registryOnly) Resolution),
        (Pool.initial (registerAll names (bareWorld now cache endpoints ()))).run
            wiring.registry schedule = some p →
          ∃ q, (Pool.initial
              (neverQueued (registerAll names (bareWorld now cache endpoints ())))).run
            wiring.registry schedule = some q ∧ p.snapshot.trace = q.snapshot.trace := by
  intro always
  obtain ⟨q, ran, same⟩ := always wiringWithoutRedis rfl ["payment"] 1700000000000 .empty apiEndpoints
    (chargeSettles (.error (.portTimeout "payment" 5000)))
    (chargeSettled (.error (.portTimeout "payment" 5000))) rfl
  have also : ((Pool.initial (neverQueued payingWorld)).run wiringWithoutRedis.registry
      (chargeSettles (.error (.portTimeout "payment" 5000)))).map
        (fun last => thrown last.snapshot.trace) =
      some [.portFallback "payment" (.portTimeout "payment" 5000)] := rfl
  have told : thrown (chargeSettled (.error (.portTimeout "payment" 5000))).snapshot.trace =
      [.error "Queue tier disabled (no Redis)"] := rfl
  change ((Pool.initial (neverQueued payingWorld)).run wiringWithoutRedis.registry _) = _ at ran
  rw [ran, Option.map_some, ← same, told] at also
  cases also

end SelfService
