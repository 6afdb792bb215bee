/-
What the registry does to the shared memory.

A call on a port updates the memory in six ways, all of them about that port.
What the updates leave alone stays as it is along every run.
-/

import SelfService.EventLoop.Updates
import SelfService.Port.Registry

namespace SelfService

open Data EventLoop PortRegistry

/-- The updates that a call on the port makes. -/
inductive PortUpdate (wiring : Wiring) (portName : String) :
    (World registryOnly → World registryOnly) → Prop
  | read : PortUpdate wiring portName id
  | probe : PortUpdate wiring portName (admitProbe portName)
  | success : PortUpdate wiring portName (noteSuccess portName)
  | failure (error : Exn) : PortUpdate wiring portName (noteFailure portName error)
  | slot (data : JsValue) : PortUpdate wiring portName (FallbackProvider.setCached portName data)
  | invalidate : PortUpdate wiring portName fun world =>
      { world with
        cache := (MemoryCacheService.deleteByPattern wiring.remote.backend.options
          (portPattern portName) world.cache).2 }

/-- The port that a call is about. -/
def PortCall.portName : PortCall → String
  | .execute i => i.portName
  | .replay payload => payload.portName
  | .invalidate cause => cause.portName
  | .refresh cause => cause.portName

section Updates

variable (wiring : Wiring) {i : Invocation} {kind : (World registryOnly → World registryOnly) → Prop}

theorem updates_get (key : String) :
    (CacheService.get key : PortTask registryOnly JsValue).Updates kind :=
  fun _ => trivial

theorem updates_set (key : String) (value : JsValue) (ttl : Option Nat) :
    (CacheService.set key value ttl : PortTask registryOnly Unit).Updates kind := by
  intro answer
  cases (answer : (CacheCommand.set key value ttl).Answer) with
  | ok value => exact trivial
  | failed applied reason => exact trivial

theorem updates_store (key : String) (value : JsValue) (ttl : Option Nat) :
    (do
      let _ ← (CacheService.set key value ttl : PortTask registryOnly Unit).attempt
      return () : PortTask registryOnly Unit).Updates kind :=
  (updates_set key value ttl).attempt.bind fun _ => trivial

theorem updates_deleteByPattern (backend : BackendKind) (pattern : String) :
    (CacheService.deleteByPattern backend pattern : PortTask registryOnly Nat).Updates kind := by
  cases backend with
  | memory => exact fun _ => trivial
  | redis =>
      intro answer
      cases (answer : Reply (List String)) with
      | failed applied reason => exact trivial
      | ok fullKeys =>
          cases fullKeys with
          | nil => exact trivial
          | cons first rest =>
              intro answer
              cases (answer : Reply Unit) with
              | failed applied reason => exact trivial
              | ok done => exact trivial

theorem updates_enqueue (payload : ReplayJobPayload) :
    (QueueService.enqueue wiring.remote payload).Updates kind := by
  unfold QueueService.enqueue
  split
  · intro answer
    cases (answer : Reply (Option String)) with
    | ok jobId => exact trivial
    | failed applied reason => exact trivial
  · exact trivial

theorem updates_callAdapter (adapter : AdapterKind) (i : Invocation) :
    (callAdapter wiring.remote adapter i).Updates kind := by
  intro outcome
  cases (outcome : Except Exn JsValue) with
  | ok data => exact trivial
  | error error => exact trivial

theorem updates_enqueueAndReject :
    (enqueueAndReject wiring.remote i).Updates (PortUpdate wiring i.portName) :=
  (updates_enqueue wiring _).bind fun _ => trivial

theorem updates_executeFallback (adapter : AdapterKind) (startTime : Nat) (cause : Option Exn) :
    (executeFallback (X := registryOnly) i adapter startTime cause).Updates
      (PortUpdate wiring i.portName) := by
  unfold executeFallback
  refine ⟨.read, ?_⟩
  intro world
  dsimp only
  split <;> exact trivial

theorem updates_executeWithQueue (entry : PortEntry) (adapter : AdapterKind) (startTime : Nat)
    (cause : Option Exn) : (executeWithQueue wiring.remote i entry adapter startTime cause).Updates
      (PortUpdate wiring i.portName) := by
  unfold executeWithQueue
  split
  · exact updates_executeFallback wiring adapter startTime cause
  · split
    · refine ⟨.read, ?_⟩
      intro world
      dsimp only
      split
      · exact updates_enqueueAndReject wiring
      · exact trivial
    · exact updates_enqueueAndReject wiring

theorem updates_invalidatePort :
    (invalidatePort wiring.remote i).Updates (PortUpdate wiring i.portName) := by
  unfold invalidatePort
  split
  · exact ⟨.invalidate, fun _ => trivial⟩
  · exact trivial

theorem updates_fillSlot (data : JsValue) :
    (fillSlot (X := registryOnly) i data).Updates (PortUpdate wiring i.portName) :=
  ⟨.slot data, fun _ => trivial⟩

theorem updates_postProcess (entry : PortEntry) (data : JsValue) :
    (postProcess wiring.remote i entry data).Updates (PortUpdate wiring i.portName) := by
  have written : (writeCache wiring.remote i entry data).Updates
      (PortUpdate wiring i.portName) := by
    unfold writeCache
    split
    · exact ⟨.read, fun _ => updates_store _ _ _⟩
    · exact trivial
  have recorded : (recordResult wiring.remote i data).Updates (PortUpdate wiring i.portName) := by
    unfold recordResult
    split
    · split
      · exact updates_store _ _ _
      · exact trivial
    · exact trivial
  have stored : (do
      writeCache wiring.remote i entry data
      fillSlot i data
      recordResult wiring.remote i data).Updates (PortUpdate wiring i.portName) :=
    written.bind fun _ => (updates_fillSlot wiring data).bind fun _ => recorded
  unfold postProcess
  split
  · exact (updates_invalidatePort wiring).bind fun _ => stored
  · exact stored

theorem updates_executeThroughBreaker (entry : PortEntry) (adapter : AdapterKind)
    (startTime : Nat) : (executeThroughBreaker wiring.remote i entry adapter startTime).Updates
      (PortUpdate wiring i.portName) := by
  unfold executeThroughBreaker
  refine ⟨.read, ?_⟩
  intro world
  dsimp only [Task.done_bind, Task.bind_eq]
  split
  · exact updates_executeWithQueue wiring entry adapter startTime none
  · refine ⟨.probe, fun _ => ?_⟩
    apply (updates_callAdapter wiring adapter i).bind
    intro outcome
    cases outcome with
    | ok data =>
        refine ⟨.read, fun _ => ⟨.success, fun _ => ?_⟩⟩
        exact (updates_postProcess wiring entry data).bind fun _ => trivial
    | error error =>
        exact ⟨.failure error, fun _ =>
          updates_executeWithQueue wiring entry adapter startTime (some error)⟩

theorem updates_executeThroughCache (entry : PortEntry) (adapter : AdapterKind)
    (startTime : Nat) : (executeThroughCache wiring.remote i entry adapter startTime).Updates
      (PortUpdate wiring i.portName) := by
  unfold executeThroughCache
  split
  · apply (updates_get _).bind
    intro value
    refine ⟨.read, ?_⟩
    intro world
    dsimp only
    split
    · exact updates_executeThroughBreaker wiring entry adapter startTime
    · exact trivial
  · exact updates_executeThroughBreaker wiring entry adapter startTime

theorem updates_executeRegistered (entry : PortEntry) (adapter : AdapterKind)
    (startTime : Nat) : (executeRegistered wiring.remote i entry adapter startTime).Updates
      (PortUpdate wiring i.portName) := by
  have through := updates_executeThroughCache wiring (i := i) entry adapter startTime
  unfold executeRegistered
  split
  · split
    · apply (updates_get _).bind
      intro value
      refine ⟨.read, ?_⟩
      intro world
      dsimp only
      split
      · exact through
      · exact trivial
    · exact through
  · exact through

theorem updates_execute :
    (execute wiring.remote i).Updates (PortUpdate wiring i.portName) := by
  unfold execute
  refine ⟨.read, ?_⟩
  intro world
  simp only [Task.done_bind]
  split
  · exact trivial
  · exact updates_executeRegistered wiring _ _ _

theorem updates_executeReplay (payload : ReplayJobPayload) :
    (executeReplay wiring.remote payload).Updates (PortUpdate wiring payload.portName) := by
  unfold executeReplay
  refine ⟨.read, ?_⟩
  intro world
  simp only [Task.done_bind]
  split
  · exact trivial
  · apply (updates_callAdapter wiring .live payload.invocation).bind
    intro outcome
    cases outcome with
    | ok data => exact (updates_fillSlot wiring (i := payload.invocation) data).bind fun _ => trivial
    | error error => exact trivial

/-- A call updates the memory of its own port only. -/
theorem portBody_updates (call : PortCall) :
    (portBody wiring.remote call).Updates (PortUpdate wiring call.portName) := by
  cases call with
  | execute i => exact (updates_execute wiring).bind fun _ => trivial
  | replay payload =>
      refine ⟨.read, ?_⟩
      intro world
      change Task.Updates _
        ((if payload ∈ world.jobs then _ else _ : PortTask registryOnly Resolution))
      split
      · exact (updates_executeReplay wiring payload).bind fun _ => trivial
      · exact trivial
  | invalidate cause => exact (updates_deleteByPattern _ _).attempt.bind fun _ => trivial
  | refresh cause => exact (updates_enqueue wiring _).attempt.bind fun _ => trivial

end Updates

/-! ### Parts of the memory that stay -/

section Parts

variable {wiring : Wiring}

theorem setBreaker_ports (portName : String) (change : CircuitBreakerState → CircuitBreakerState)
    (world : World registryOnly) : (setBreaker portName change world).ports = world.ports := by
  unfold setBreaker
  split <;> rfl

theorem PortUpdate.ports {portName : String} {update : World registryOnly → World registryOnly}
    (updates : PortUpdate wiring portName update) (world : World registryOnly) :
    (update world).ports = world.ports := by
  cases updates with
  | read | slot | invalidate => rfl
  | probe | success | failure => exact setBreaker_ports _ _ _

/-- What an answer leaves alone: everything but the cache and the queue. -/
theorem answer_leaves {after before : World registryOnly} {request : (portSignature registryOnly).Req}
    {answer : (portSignature registryOnly).Ans request}
    (performed : wiring.registry.perform before request answer = some after) :
    ∃ cache jobs, after = { before with cache := cache, jobs := jobs } := by
  rcases request with (command | ref | payload) | request
  · have performed : performPort wiring.remote before (.cache command) answer = some after :=
      performed
    obtain ⟨-, cache, -, rfl⟩ := performPort_cache performed
    exact ⟨cache, before.jobs, rfl⟩
  · cases performed
    exact ⟨_, _, rfl⟩
  · cases (answer : Reply (Option String)) with
    | ok jobId =>
        cases performed
        exact ⟨before.cache, _, rfl⟩
    | failed applied reason =>
        cases performed
        cases applied with
        | true => exact ⟨before.cache, _, rfl⟩
        | false => exact ⟨before.cache, before.jobs, rfl⟩
  · exact request.elim

/-- The registered ports stay as they are. -/
theorem kept_ports (ports : OrderedMap String PortEntry) :
    Kept wiring.registry fun world => world.ports = ports := by
  constructor
  · rintro (call | call)
    · apply (portBody_updates wiring call).mono
      intro update updates world same
      rw [updates.ports, same]
    · exact call.elim
  · intro world request answer after same performed
    obtain ⟨cache, jobs, rfl⟩ := answer_leaves performed
    exact same
  · intro world event after same moved
    have moved : World.external wiring.remote world event = some after := moved
    rcases external_cases moved with ⟨millis, rfl⟩ | ⟨fullKey, -, rfl⟩ | ⟨mock, endpoints, rfl⟩ <;>
      exact same

end Parts

end SelfService
