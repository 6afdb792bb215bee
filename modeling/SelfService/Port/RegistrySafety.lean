/-
What one call of `execute` can do to the process, and what it can answer.

`RegistryStep` lists the steps once.  An invariant that survives each of them
survives `execute` under any interleaving, and `Outcome` relates the answer to
what the trace shows of the call.
-/

import SelfService.Port.Registry

namespace SelfService

open Data EventLoop PortRegistry

variable {X : Extension}

abbrev PortSnapshot (X : Extension) := Snapshot (portSignature X) Resolution

abbrev PortEvent (X : Extension) := Event (portSignature X) Resolution

abbrev PortTrace (X : Extension) := Trace (portSignature X) Resolution

abbrev PortTraceEntry (X : Extension) := Entry (portSignature X) Resolution

/-- What the adapters promise about an outcome when they settle. -/
abbrev Promise (X : Extension) := Invocation → Except Exn JsValue → PortTrace X → Prop

def noPromise {X : Extension} : Promise X := fun _ _ _ => True

/-! ### Steps -/

/-- The requests a call sends itself, and those of the promises it leaves behind;
its adapter sends its own. -/
inductive Issues (d : Deployment X) (tid : Nat) (i : Invocation) (s : PortSnapshot X) :
    PortRequest → Prop
  | retrieve (rawKey : String) (keyed : i.idempotencyKey = some rawKey) :
      Issues d tid i s (.cache (.get (InboundIdempotencyService.buildCacheKey d rawKey)))
  | record (rawKey : String) (adapter : AdapterKind) (data : JsValue)
      (keyed : i.idempotencyKey = some rawKey)
      (seen : s.Saw tid (.marked (.inl (.settled adapter i (.ok data))))) :
      Issues d tid i s (.cache (.set (InboundIdempotencyService.buildCacheKey d rawKey) data
        (some InboundIdempotencyService.DEFAULT_TTL)))
  | lookup (readOnly : isMutationMethod i.method = false) :
      Issues d tid i s (.cache (.get (buildCacheKey d i.portName i.method i.params)))
  | fill (adapter : AdapterKind) (data cachedAt : JsValue) (ttl : Nat)
      (readOnly : isMutationMethod i.method = false)
      (seen : s.Saw tid (.marked (.inl (.settled adapter i (.ok data))))) :
      Issues d tid i s (.cache (.set (buildCacheKey d i.portName i.method i.params)
        (.obj [("data", data), ("cachedAt", cachedAt)]) (some ttl)))
  | queue : Issues d tid i s (.queueAdd (replayPayload i))
  | erase : Issues d tid i s (.cache (.deleteByPattern (portPattern i.portName)))
  | list : Issues d tid i s (.cache (.keys (portPattern i.portName)))
  | sweep (fullKeys : List String)
      (listed : s.Saw tid (.answered (.inl (.cache (.keys (portPattern i.portName))))
        (Reply.ok fullKeys))) :
      Issues d tid i s (.cache (.del fullKeys))

inductive RegistryStep (d : Deployment X) (service : Service X) (promise : Promise X)
    (tid : Nat) (i : Invocation) :
    PortSnapshot X → PortSnapshot X → Prop
  | request (s : PortSnapshot X) :
      RegistryStep d service promise tid i s
        (s.log (portSystem d service) tid (.marked (.inl (.requested i))))
  | breakers (s : PortSnapshot X) (breakers : OrderedMap String CircuitBreakerState) :
      RegistryStep d service promise tid i s
        { s with state := { s.state with circuitBreakers := breakers } }
  | invalidate (s : PortSnapshot X) :
      RegistryStep d service promise tid i s
        { s with state := { s.state with
            cache := (MemoryCacheService.deleteByPattern d.backend.options
              (portPattern i.portName) s.state.cache).2 } }
  | answer (s : PortSnapshot X) (request : PortRequest) (answer : request.Answer)
      (world : World X) (issued : Issues d tid i s request)
      (performed : performPort d s.state request answer = some world) :
      RegistryStep d service promise tid i s
        ((⟨world, s.trace⟩ : PortSnapshot X).log (portSystem d service) tid
          (.answered (.inl request) answer))
  | settle (s : PortSnapshot X) (adapter : AdapterKind) (outcome : Except Exn JsValue)
      (promised : promise i outcome s.trace) :
      RegistryStep d service promise tid i s
        (s.log (portSystem d service) tid (.marked (.inl (.settled adapter i outcome))))
  | fill (s : PortSnapshot X) (adapter : AdapterKind) (data : JsValue)
      (seen : s.Saw tid (.marked (.inl (.settled adapter i (.ok data))))) :
      RegistryStep d service promise tid i s
        (({ s with state := FallbackProvider.setCached i.portName data s.state } :
          PortSnapshot X).log (portSystem d service) tid
          (.marked (.inl (.slotFilled i data))))
  | fallBack (s : PortSnapshot X) (data : JsValue)
      (slot : s.state.fallbackCache.get? i.portName = some data)
      (present : data.isNullish = false) :
      RegistryStep d service promise tid i s
        (s.log (portSystem d service) tid (.marked (.inl (.fellBack i data))))
  | detach (s : PortSnapshot X) (fresh : Nat) (call : PortCall) (other : fresh ≠ tid)
      (kind : call = .invalidate i ∨ call = .refresh i) :
      RegistryStep d service promise tid i s
        (s.log (portSystem d service) fresh (.started (.inl call)))

/-- Every step of the call keeps the invariant. -/
def Closed (d : Deployment X) (service : Service X) (promise : Promise X)
    (Inv : PortSnapshot X → Prop) (tid : Nat) (i : Invocation) : Prop :=
  ∀ s later, RegistryStep d service promise tid i s later → Inv s → Inv later

theorem performPort_service {d : Deployment X} {world after : World X} {request : PortRequest}
    {answer : request.Answer} (performed : performPort d world request answer = some after) :
    after.service = world.service := by
  cases request with
  | cache command =>
      obtain ⟨-, cache, -, rfl⟩ := performPort_cache performed
      rfl
  | adapter ref context method params =>
      cases performed
      rfl
  | queueAdd payload =>
      cases answer with
      | ok jobId =>
          cases performed
          rfl
      | failed applied reason =>
          cases applied <;> cases performed <;> rfl

/-- The registry never touches the state of a service. -/
theorem RegistryStep.service_eq {d : Deployment X} {service : Service X} {promise : Promise X}
    {tid : Nat} {i : Invocation} {s later : PortSnapshot X}
    (step : RegistryStep d service promise tid i s later) :
    later.state.service = s.state.service := by
  cases step with
  | answer request answer world issued performed => exact performPort_service performed
  | _ => rfl

theorem RegistryStep.extends {d : Deployment X} {service : Service X} {promise : Promise X}
    {tid : Nat} {i : Invocation} {s later : PortSnapshot X}
    (step : RegistryStep d service promise tid i s later) : s.Extends later := by
  cases step with
  | breakers breakers => exact .refl s
  | invalidate => exact .refl s
  | _ => exact List.prefix_append _ _

/-- The events that the steps of the registry leave on the trace. -/
def OfRegistry : PortEvent X → Prop
  | .marked (.inl _) | .answered (.inl _) _ | .started (.inl _) => True
  | _ => False

/-- The cache was not asked. -/
def Uncached (event : PortEvent X) : Prop :=
  ∀ command answer, event ≠ .answered (.inl (.cache command)) answer

/-- A property of traces survives a call if it survives what the registry logs. -/
theorem closed_of_trace {d : Deployment X} {service : Service X} {promise : Promise X}
    {P : PortTrace X → Prop}
    (kept : ∀ trace entry, OfRegistry entry.event → P trace → P (trace ++ [entry]))
    (tid : Nat) (i : Invocation) :
    Closed d service promise (fun s => P s.trace) tid i := by
  intro s later step hold
  cases step with
  | request => exact kept _ _ trivial hold
  | breakers breakers => exact hold
  | invalidate => exact hold
  | answer request answer world issued performed => exact kept _ _ trivial hold
  | settle adapter outcome promised => exact kept _ _ trivial hold
  | fill adapter data seen => exact kept _ _ trivial hold
  | fallBack data slot present => exact kept _ _ trivial hold
  | detach fresh call other kind => exact kept _ _ trivial hold

/-! ### Outcomes -/

/-- How `execute` can end, and the observation of the call behind each end. -/
inductive Outcome (d : Deployment X) (tid : Nat) (i : Invocation) (trace : PortTrace X) :
    Except Exn PortResult → Prop
  | unregistered : Outcome d tid i trace (.error (.portNotRegistered i.portName))
  | recorded (rawKey : String) (result : PortResult) (keyed : i.idempotencyKey = some rawKey)
      (seen : Saw trace tid (.answered
        (.inl (.cache (.get (InboundIdempotencyService.buildCacheKey d rawKey))))
        (Reply.ok result.data)))
      (present : result.data.isNullish = false) (healthy : result.degraded = false)
      (replayed : result.fromIdempotency = true) :
      Outcome d tid i trace (.ok result)
  | cached (entry : JsValue) (result : PortResult)
      (readOnly : isMutationMethod i.method = false)
      (seen : Saw trace tid (.answered
        (.inl (.cache (.get (buildCacheKey d i.portName i.method i.params)))) (Reply.ok entry)))
      (present : entry.isNullish = false) (same : result.data = entry.field "data")
      (healthy : result.degraded = false) (executed : result.fromIdempotency = false) :
      Outcome d tid i trace (.ok result)
  | fresh (adapter : AdapterKind) (result : PortResult)
      (seen : Saw trace tid (.marked (.inl (.settled adapter i (.ok result.data)))))
      (healthy : result.degraded = false) (executed : result.fromIdempotency = false) :
      Outcome d tid i trace (.ok result)
  | degraded (result : PortResult)
      (seen : Saw trace tid (.marked (.inl (.fellBack i result.data))))
      (ill : result.degraded = true) (executed : result.fromIdempotency = false) :
      Outcome d tid i trace (.ok result)
  | failed (cause : Exn) : Outcome d tid i trace (.error (.portFallback i.portName cause))
  | queued (jobId : Option String)
      (seen : Saw trace tid (.answered (.inl (.queueAdd (replayPayload i))) (Reply.ok jobId))) :
      Outcome d tid i trace (.error (.portQueued i.portName (jobId.getD "unknown")))
  | unqueued (reason : String) : Outcome d tid i trace (.error (.error reason))

/-- A call that was queued left its job with the queue. -/
theorem Outcome.saw_queued {d : Deployment X} {tid : Nat} {i : Invocation} {trace : PortTrace X}
    {portName jobId : String} (outcome : Outcome d tid i trace (.error (.portQueued portName jobId))) :
    ∃ reply, Saw trace tid (.answered (.inl (.queueAdd (replayPayload i))) (Reply.ok reply)) := by
  cases outcome with
  | queued reply seen => exact ⟨reply, seen⟩

theorem Outcome.mono {d : Deployment X} {tid : Nat} {i : Invocation} {early late : PortTrace X}
    {result : Except Exn PortResult} (outcome : Outcome d tid i early result)
    (grown : early <+: late) : Outcome d tid i late result := by
  have kept {event : PortEvent X} (seen : Saw early tid event) : Saw late tid event := by
    obtain ⟨time, member⟩ := seen
    exact ⟨time, grown.subset member⟩
  cases outcome with
  | unregistered => exact .unregistered
  | recorded rawKey result keyed seen present healthy replayed =>
      exact .recorded rawKey result keyed (kept seen) present healthy replayed
  | cached entry result readOnly seen present same healthy executed =>
      exact .cached entry result readOnly (kept seen) present same healthy executed
  | fresh adapter result seen healthy executed =>
      exact .fresh adapter result (kept seen) healthy executed
  | degraded result seen ill executed => exact .degraded result (kept seen) ill executed
  | failed cause => exact .failed cause
  | queued jobId seen => exact .queued jobId (kept seen)
  | unqueued reason => exact .unqueued reason

/-! ### Rules -/

section Rules

variable {d : Deployment X} {service : Service X} {promise : Promise X}
  {Inv : PortSnapshot X → Prop} {tid : Nat} {i : Invocation} {s : PortSnapshot X}

theorem Issues.mono {later : PortSnapshot X} {request : PortRequest}
    (issued : Issues d tid i s request) (grown : s.Extends later) :
    Issues d tid i later request := by
  cases issued with
  | retrieve rawKey keyed => exact .retrieve rawKey keyed
  | record rawKey adapter data keyed seen =>
      exact .record rawKey adapter data keyed (seen.mono grown)
  | lookup readOnly => exact .lookup readOnly
  | fill adapter data cachedAt ttl readOnly seen =>
      exact .fill adapter data cachedAt ttl readOnly (seen.mono grown)
  | queue => exact .queue
  | erase => exact .erase
  | list => exact .list
  | sweep fullKeys listed => exact .sweep fullKeys (listed.mono grown)

/-- Awaiting one of the call's own requests. -/
theorem Closed.await (closed : Closed d service promise Inv tid i) {α : Type}
    {post : Except Exn α → PortSnapshot X → Prop} {request : PortRequest}
    {next : request.Answer → PortTask X α} (issued : Issues d tid i s request) (hold : Inv s)
    (go : ∀ answer later, s.Extends later → Inv later →
      later.Saw tid (.answered (.inl request) answer) →
      Safe (portSystem d service) Inv tid post (next answer) later) :
    Safe (portSystem d service) Inv tid post
      (.await (.inl request) next : PortTask X α) s := by
  constructor
  · exact hold
  · intro now follows holdNow answer world performed
    have issuedNow := issued.mono follows.extends
    have holdTold := closed now _ (.answer now request answer world issuedNow performed) holdNow
    constructor
    · exact holdTold
    · intro later after holdLater
      apply go answer later
      · exact (follows.extends.trans
          (Snapshot.extends_log (portSystem d service) ⟨world, now.trace⟩ tid _)).trans
          after.extends
      · exact holdLater
      · exact (Snapshot.saw_log _ _ _ _).mono after.extends

/-- Awaiting a cache command that a service sends itself. -/
theorem safe_cache {α : Type} {post : Except Exn α → PortSnapshot X → Prop}
    {command : CacheCommand} {next : command.Answer → PortTask X α} (hold : Inv s)
    (kept : ∀ now answer cache, s.Extends now → Inv now →
      d.environment.answers now.state.now now.state.cache command answer = true →
      d.backend.perform now.state.now now.state.cache command answer = some cache →
      Inv ((⟨{ now.state with cache := cache }, now.trace⟩ : PortSnapshot X).log
        (portSystem d service) tid (.answered (.inl (.cache command)) answer)))
    (go : ∀ answer later, s.Extends later → Inv later →
      SawSince s.trace later.trace tid (.answered (.inl (.cache command)) answer) →
      (∃ time store cache, d.backend.perform time store command answer = some cache) →
      Safe (portSystem d service) Inv tid post (next answer) later) :
    Safe (portSystem d service) Inv tid post
      (.await (.inl (.cache command)) next : PortTask X α) s := by
  constructor
  · exact hold
  · intro now follows holdNow answer world performed
    obtain ⟨allowed, cache, served, rfl⟩ := performPort_cache performed
    constructor
    · exact kept now answer cache follows.extends holdNow allowed served
    · intro later after holdLater
      have seen : SawSince s.trace
          ((⟨{ now.state with cache := cache }, now.trace⟩ : PortSnapshot X).log
            (portSystem d service) tid (.answered (.inl (.cache command)) answer)).trace
          tid (.answered (.inl (.cache command)) answer) :=
        ⟨now.trace, _, [], rfl, follows.extends⟩
      apply go answer later
      · exact (follows.extends.trans (Snapshot.extends_log (portSystem d service)
          ⟨{ now.state with cache := cache }, now.trace⟩ tid _)).trans after.extends
      · exact holdLater
      · exact seen.mono after.extends
      · exact ⟨_, _, cache, served⟩

/-- Awaiting a request of a service. -/
theorem safe_service {α : Type} {post : Except Exn α → PortSnapshot X → Prop}
    {request : X.Req} {next : X.Ans request → PortTask X α} (hold : Inv s)
    (kept : ∀ now answer state, s.Extends now → Inv now →
      service.perform now.state.service request answer = some state →
      Inv ((⟨{ now.state with service := state }, now.trace⟩ : PortSnapshot X).log
        (portSystem d service) tid (.answered (.inr request) answer)))
    (go : ∀ answer later, s.Extends later → Inv later →
      later.Saw tid (.answered (.inr request) answer) →
      Safe (portSystem d service) Inv tid post (next answer) later) :
    Safe (portSystem d service) Inv tid post
      (.await (.inr request) next : PortTask X α) s := by
  constructor
  · exact hold
  · intro now follows holdNow answer world performed
    obtain ⟨state, served, rfl⟩ := Option.map_eq_some_iff.mp performed
    constructor
    · exact kept now answer state follows.extends holdNow served
    · intro later after holdLater
      apply go answer later
      · exact (follows.extends.trans
          (Snapshot.extends_log (portSystem d service)
            ⟨{ now.state with service := state }, now.trace⟩ tid _)).trans after.extends
      · exact holdLater
      · exact (Snapshot.saw_log _ _ _ _).mono after.extends

/-- The postcondition of a call: the invariant holds and the answer is accounted for. -/
def Answers (d : Deployment X) (Inv : PortSnapshot X → Prop) (tid : Nat) (i : Invocation)
    (result : Except Exn PortResult) (later : PortSnapshot X) : Prop :=
  Inv later ∧ Outcome d tid i later.trace result

theorem slot_of_fallback {world : World X} {key : String} {error : Exn} {data : JsValue}
    (served : FallbackProvider.execute world key error = .ok data) :
    world.fallbackCache.get? key = some data ∧ data.isNullish = false := by
  unfold FallbackProvider.execute FallbackProvider.getCached at served
  split at served
  · cases slot : world.fallbackCache.get? key with
    | none => simp [slot, JsValue.isNullish] at served
    | some value =>
        cases nullish : value.isNullish with
        | true => simp [slot, nullish] at served
        | false =>
            simp only [slot, nullish, Option.getD_some, Bool.false_eq_true, if_false] at served
            cases served
            exact ⟨rfl, nullish⟩
  · cases served

theorem Closed.executeFallback (closed : Closed d service promise Inv tid i) (adapter : AdapterKind)
    (startTime : Nat) (originalError : Option Exn) (hold : Inv s) :
    Safe (portSystem d service) Inv tid (Answers d Inv tid i)
      (PortRegistry.executeFallback i adapter startTime originalError : PortTask X PortResult)
      s := by
  unfold PortRegistry.executeFallback
  rw [safe_sync_id]
  simp only
  split
  · rename_i data served
    obtain ⟨slot, present⟩ := slot_of_fallback served
    have step : RegistryStep d service promise tid i s _ := .fallBack s data slot present
    constructor
    · exact closed s _ step hold
    · exact Outcome.degraded _ (Snapshot.saw_log _ _ _ _) rfl rfl
  · exact ⟨hold, Outcome.failed _⟩

theorem Closed.enqueueAndReject (closed : Closed d service promise Inv tid i) (hold : Inv s) :
    Safe (portSystem d service) Inv tid (Answers d Inv tid i)
      (PortRegistry.enqueueAndReject d i) s := by
  unfold PortRegistry.enqueueAndReject QueueService.enqueue
  split
  · apply closed.await .queue hold
    intro answer later grown holdLater seen
    cases answer with
    | ok jobId => exact ⟨holdLater, Outcome.queued jobId seen⟩
    | failed applied reason => exact ⟨holdLater, Outcome.unqueued reason⟩
  · exact ⟨hold, Outcome.unqueued _⟩

theorem Closed.executeWithQueue (closed : Closed d service promise Inv tid i) (entry : PortEntry)
    (adapter : AdapterKind) (startTime : Nat) (originalError : Option Exn) (hold : Inv s) :
    Safe (portSystem d service) Inv tid (Answers d Inv tid i)
      (PortRegistry.executeWithQueue d i entry adapter startTime originalError) s := by
  unfold PortRegistry.executeWithQueue
  split
  · exact closed.executeFallback adapter startTime originalError hold
  · split
    · rw [safe_sync_id]
      simp only
      split
      · exact closed.enqueueAndReject hold
      · rename_i present
        have slot : s.state.fallbackCache.get? i.portName =
            some (FallbackProvider.getCached s.state i.portName) := by
          unfold FallbackProvider.getCached at present ⊢
          cases found : s.state.fallbackCache.get? i.portName with
          | none => simp [found, JsValue.isNullish] at present
          | some value => rfl
        intro fresh other
        let forked := s.log (portSystem d service) fresh
          (.started (.inl (.refresh i)))
        have detached : RegistryStep d service promise tid i s forked :=
          .detach s fresh _ other (Or.inr rfl)
        have served : RegistryStep d service promise tid i forked _ :=
          .fallBack forked _ slot (by simpa using present)
        constructor
        · exact closed _ _ served (closed _ _ detached hold)
        · exact Outcome.degraded _ (Snapshot.saw_log _ _ _ _) rfl rfl
    · exact closed.enqueueAndReject hold

/-! ### Breakers -/

theorem setBreaker_only (portName : String) (change : CircuitBreakerState → CircuitBreakerState)
    (world : World X) :
    ∃ breakers, setBreaker portName change world =
      { world with circuitBreakers := breakers } := by
  unfold setBreaker
  split
  · exact ⟨_, rfl⟩
  · exact ⟨world.circuitBreakers, rfl⟩

/-- Whatever a call does to its breaker is one step. -/
theorem Closed.breaker (closed : Closed d service promise Inv tid i) (hold : Inv s) (portName : String)
    (change : CircuitBreakerState → CircuitBreakerState) :
    Inv { s with state := setBreaker portName change s.state } := by
  obtain ⟨breakers, same⟩ := setBreaker_only portName change s.state
  rw [same]
  exact closed s _ (.breakers s breakers) hold

/-! ### After a success -/

/-- A task of the call that keeps the invariant and cannot reject. -/
def Silent (d : Deployment X) (service : Service X) (Inv : PortSnapshot X → Prop) (tid : Nat)
    (task : PortTask X Unit) (s : PortSnapshot X) : Prop :=
  Safe (portSystem d service) Inv tid
    (fun result later => ∃ value, result = .ok value ∧ Inv later) task s

theorem Closed.invalidatePort (closed : Closed d service promise Inv tid i) (hold : Inv s) :
    Silent d service Inv tid (PortRegistry.invalidatePort d i) s := by
  unfold PortRegistry.invalidatePort
  split
  · exact ⟨(), rfl, closed s _ (.invalidate s) hold⟩
  · intro fresh other
    have step : RegistryStep d service promise tid i s _ := .detach s fresh _ other (Or.inl rfl)
    exact ⟨(), rfl, closed s _ step hold⟩

theorem Closed.cacheSet (closed : Closed d service promise Inv tid i) {key : String} {value : JsValue}
    {ttl : Option Nat} (issued : Issues d tid i s (.cache (.set key value ttl))) (hold : Inv s) :
    Safe (portSystem d service) Inv tid (fun _ later => Inv later)
      (CacheService.set key value ttl : PortTask X Unit) s := by
  apply closed.await issued hold
  intro answer later grown holdLater seen
  cases answer with
  | ok done => exact holdLater
  | failed applied reason => exact holdLater

theorem Closed.writeCache (closed : Closed d service promise Inv tid i) (entry : PortEntry)
    (adapter : AdapterKind) (data : JsValue)
    (seen : s.Saw tid (.marked (.inl (.settled adapter i (.ok data)))))
    (hold : Inv s) : Silent d service Inv tid (PortRegistry.writeCache d i entry data) s := by
  unfold PortRegistry.writeCache
  split
  · rename_i cacheable
    have readOnly : isMutationMethod i.method = false := by
      simp only [shouldCache, Bool.and_eq_true, Bool.not_eq_true'] at cacheable
      exact cacheable.1.1
    unfold Silent
    rw [safe_sync_id, safe_bind, safe_attempt]
    apply (closed.cacheSet (.fill adapter data _ _ readOnly seen) hold).mono
    intro result later grown holdLater
    exact ⟨(), rfl, holdLater⟩
  · exact ⟨(), rfl, hold⟩

theorem Closed.fillSlot (closed : Closed d service promise Inv tid i) (adapter : AdapterKind)
    (data : JsValue) (seen : s.Saw tid (.marked (.inl (.settled adapter i (.ok data)))))
    (hold : Inv s) : Silent d service Inv tid (PortRegistry.fillSlot i data) s :=
  ⟨(), rfl, closed s _ (.fill s adapter data seen) hold⟩

theorem Closed.recordResult (closed : Closed d service promise Inv tid i) (adapter : AdapterKind)
    (data : JsValue) (seen : s.Saw tid (.marked (.inl (.settled adapter i (.ok data)))))
    (hold : Inv s) : Silent d service Inv tid (PortRegistry.recordResult d i data) s := by
  unfold PortRegistry.recordResult
  split
  · rename_i rawKey keyed
    split
    · unfold InboundIdempotencyService.store Silent
      rw [safe_bind, safe_attempt]
      apply (closed.cacheSet (.record rawKey adapter data keyed seen) hold).mono
      intro result later grown holdLater
      exact ⟨(), rfl, holdLater⟩
    · exact ⟨(), rfl, hold⟩
  · exact ⟨(), rfl, hold⟩

theorem Closed.postProcess (closed : Closed d service promise Inv tid i) (entry : PortEntry)
    (adapter : AdapterKind) (data : JsValue)
    (seen : s.Saw tid (.marked (.inl (.settled adapter i (.ok data)))))
    (hold : Inv s) : Silent d service Inv tid (PortRegistry.postProcess d i entry data) s := by
  have fromWrite (current : PortSnapshot X) (grown : s.Extends current)
      (holdCurrent : Inv current) :
      Silent d service Inv tid (do
        PortRegistry.writeCache d i entry data
        PortRegistry.fillSlot i data
        PortRegistry.recordResult d i data) current := by
    apply (closed.writeCache entry adapter data (seen.mono grown) holdCurrent).andThen
    intro _ written grownWritten holdWritten
    have seenWritten := (seen.mono grown).mono grownWritten
    apply (closed.fillSlot adapter data seenWritten holdWritten).andThen
    intro _ filled grownFilled holdFilled
    exact closed.recordResult adapter data (seenWritten.mono grownFilled) holdFilled
  unfold PortRegistry.postProcess
  split
  · apply (closed.invalidatePort hold).andThen
    intro _ later grown holdLater
    exact fromWrite later grown holdLater
  · exact fromWrite s (.refl s) hold

/-! ### The call -/

/-- What a call needs of the code registered as its adapter. -/
def AdaptersKeep (d : Deployment X) (service : Service X) (promise : Promise X)
    (Inv : PortSnapshot X → Prop) (tid : Nat) (i : Invocation) : Prop :=
  ∀ adapter s, Inv s → Safe (portSystem d service) Inv tid
    (fun outcome later => Inv later ∧ promise i outcome later.trace)
    (d.adapter ⟨i.portName, adapter⟩ i.context i.method i.params) s

theorem Closed.callAdapter (closed : Closed d service promise Inv tid i)
    (adapters : AdaptersKeep d service promise Inv tid i) (adapter : AdapterKind) (hold : Inv s) :
    Safe (portSystem d service) Inv tid
      (fun result later => ∃ outcome, result = .ok outcome ∧
        (Inv later ∧ later.Saw tid (.marked (.inl (.settled adapter i outcome)))))
      (PortRegistry.callAdapter d adapter i) s := by
  unfold PortRegistry.callAdapter
  rw [safe_bind, safe_attempt]
  apply (adapters adapter s hold).mono
  rintro outcome later - ⟨holdLater, promised⟩
  exact ⟨outcome, rfl, closed later _ (.settle later adapter outcome promised) holdLater,
    Snapshot.saw_log _ later tid _⟩

theorem Closed.executeThroughBreaker (closed : Closed d service promise Inv tid i)
    (adapters : AdaptersKeep d service promise Inv tid i) (entry : PortEntry) (adapter : AdapterKind)
    (startTime : Nat) (hold : Inv s) :
    Safe (portSystem d service) Inv tid (Answers d Inv tid i)
      (PortRegistry.executeThroughBreaker d i entry adapter startTime) s := by
  unfold PortRegistry.executeThroughBreaker
  rw [safe_read]
  split
  · exact closed.executeWithQueue entry adapter startTime none hold
  · rw [safe_modify]
    have admitted := closed.breaker hold i.portName fun breaker =>
      if breaker.state = .open then breaker.halfOpen s.state.now else breaker
    apply (closed.callAdapter adapters adapter admitted).andThen
    rintro outcome later - ⟨holdLater, seen⟩
    cases outcome with
    | ok data =>
        simp only
        rw [safe_read, safe_modify]
        have counted := closed.breaker holdLater i.portName
          (CircuitBreakerState.recordSuccess later.state.now)
        have seenCounted :
            ({ later with state := noteSuccess i.portName later.state } : PortSnapshot X).Saw tid
              (.marked (.inl (.settled adapter i (.ok data)))) := seen
        apply (closed.postProcess entry adapter data seenCounted counted).andThen
        intro _ final grownFinal holdFinal
        constructor
        · exact holdFinal
        · exact Outcome.fresh adapter _ (seenCounted.mono grownFinal) rfl rfl
    | error originalError =>
        simp only
        rw [safe_modify]
        apply closed.executeWithQueue
        exact closed.breaker holdLater i.portName _

theorem Closed.executeThroughCache (closed : Closed d service promise Inv tid i)
    (adapters : AdaptersKeep d service promise Inv tid i) (entry : PortEntry) (adapter : AdapterKind)
    (startTime : Nat) (hold : Inv s) :
    Safe (portSystem d service) Inv tid (Answers d Inv tid i)
      (PortRegistry.executeThroughCache d i entry adapter startTime) s := by
  unfold PortRegistry.executeThroughCache
  split
  · rename_i cacheable
    have readOnly : isMutationMethod i.method = false := by
      simp only [shouldCache, Bool.and_eq_true, Bool.not_eq_true'] at cacheable
      exact cacheable.1.1
    apply closed.await (.lookup readOnly) hold
    intro answer later grown holdLater seen
    change Safe _ _ _ _ (Task.read >>= _) later
    rw [safe_read]
    cases answer with
    | failed applied reason =>
        exact closed.executeThroughBreaker adapters entry adapter startTime holdLater
    | ok cachedEntry =>
        cases present : cachedEntry.isNullish with
        | true =>
            simp only [cast_eq, Reply.getD, present, if_true]
            exact closed.executeThroughBreaker adapters entry adapter startTime holdLater
        | false =>
            simp only [cast_eq, Reply.getD, present, Bool.false_eq_true, if_false]
            constructor
            · exact holdLater
            · exact Outcome.cached cachedEntry _ readOnly seen present rfl rfl rfl
  · exact closed.executeThroughBreaker adapters entry adapter startTime hold

theorem Closed.executeRegistered (closed : Closed d service promise Inv tid i)
    (adapters : AdaptersKeep d service promise Inv tid i) (entry : PortEntry) (adapter : AdapterKind)
    (startTime : Nat) (hold : Inv s) :
    Safe (portSystem d service) Inv tid (Answers d Inv tid i)
      (PortRegistry.executeRegistered d i entry adapter startTime) s := by
  unfold PortRegistry.executeRegistered
  split
  · rename_i rawKey keyed
    split
    · apply closed.await (.retrieve rawKey keyed) hold
      intro answer later grown holdLater seen
      change Safe _ _ _ _ (Task.read >>= _) later
      rw [safe_read]
      cases answer with
      | failed applied reason =>
          exact closed.executeThroughCache adapters entry adapter startTime holdLater
      | ok recorded =>
          cases present : recorded.isNullish with
          | true =>
              simp only [cast_eq, Reply.getD, present, if_true]
              exact closed.executeThroughCache adapters entry adapter startTime holdLater
          | false =>
              simp only [cast_eq, Reply.getD, present, Bool.false_eq_true, if_false]
              constructor
              · exact holdLater
              · exact Outcome.recorded rawKey _ keyed seen present rfl rfl
    · exact closed.executeThroughCache adapters entry adapter startTime hold
  · exact closed.executeThroughCache adapters entry adapter startTime hold

/-- One call of `execute` keeps the invariant and answers as `Outcome` says. -/
theorem Closed.execute (closed : Closed d service promise Inv tid i)
    (adapters : AdaptersKeep d service promise Inv tid i) (hold : Inv s) :
    Safe (portSystem d service) Inv tid (Answers d Inv tid i) (PortRegistry.execute d i) s := by
  unfold PortRegistry.execute
  rw [safe_note, safe_read]
  have requested := closed s _ (.request s) hold
  split
  · exact ⟨requested, Outcome.unregistered⟩
  · exact closed.executeRegistered adapters _ _ _ requested

/-! ### The other calls -/

/-- The invocation a call of the registry acts for. -/
def PortCall.invocation : PortCall → Invocation
  | .execute invocation => invocation
  | .replay payload => payload.invocation
  | .invalidate cause => cause
  | .refresh cause => cause

theorem Closed.executeReplay {payload : ReplayJobPayload}
    (closed : Closed d service promise Inv tid payload.invocation)
    (adapters : AdaptersKeep d service promise Inv tid payload.invocation) (hold : Inv s) :
    Safe (portSystem d service) Inv tid (fun _ later => Inv later)
      (PortRegistry.executeReplay d payload) s := by
  unfold PortRegistry.executeReplay
  rw [safe_read]
  split
  · exact hold
  · apply (closed.callAdapter adapters .live hold).andThen
    rintro outcome later - ⟨holdLater, seen⟩
    cases outcome with
    | ok data =>
        apply (closed.fillSlot .live data seen holdLater).andThen
        intro _ filled _ holdFilled
        exact holdFilled
    | error error => exact holdLater

theorem Closed.deleteByPattern (closed : Closed d service promise Inv tid i) (hold : Inv s) :
    Safe (portSystem d service) Inv tid (fun _ later => Inv later)
      (CacheService.deleteByPattern d.backend.kind (portPattern i.portName) : PortTask X Nat)
      s := by
  unfold CacheService.deleteByPattern
  split
  · apply closed.await .erase hold
    intro answer later grown holdLater seen
    exact holdLater
  · apply closed.await .list hold
    intro answer later grown holdLater seen
    cases answer with
    | failed applied reason => exact holdLater
    | ok fullKeys =>
        cases fullKeys with
        | nil => exact holdLater
        | cons fullKey rest =>
            apply closed.await (.sweep (fullKey :: rest) seen) holdLater
            intro answer final grownFinal holdFinal swept
            cases answer with
            | ok done => exact holdFinal
            | failed applied reason => exact holdFinal

theorem Closed.enqueue (closed : Closed d service promise Inv tid i) (hold : Inv s) :
    Safe (portSystem d service) Inv tid (fun _ later => Inv later)
      (QueueService.enqueue d (replayPayload i)) s := by
  unfold QueueService.enqueue
  split
  · apply closed.await .queue hold
    intro answer later grown holdLater seen
    cases answer with
    | ok jobId => exact holdLater
    | failed applied reason => exact holdLater
  · exact hold

/-- What the end of a call tells about it. -/
def CallOutcome (d : Deployment X) (tid : Nat) (trace : PortTrace X) :
    PortCall → Except Exn Resolution → Prop
  | .execute i, .ok resolution =>
      ∃ result, resolution = .port result ∧ Outcome d tid i trace (.ok result)
  | .execute i, .error error => Outcome d tid i trace (.error error)
  | _, _ => True

theorem Closed.portBody (call : PortCall) (closed : Closed d service promise Inv tid call.invocation)
    (adapters : AdaptersKeep d service promise Inv tid call.invocation) (hold : Inv s) :
    Safe (portSystem d service) Inv tid
      (fun result later => Inv later ∧ CallOutcome d tid later.trace call result)
      (portBody d call) s := by
  cases call with
  | execute invocation =>
      unfold SelfService.portBody
      rw [safe_bind]
      apply (closed.execute adapters hold).mono
      rintro result later - ⟨holdLater, outcome⟩
      cases result with
      | ok result => exact ⟨holdLater, result, rfl, outcome⟩
      | error error => exact ⟨holdLater, outcome⟩
  | replay payload =>
      unfold SelfService.portBody
      rw [safe_read]
      split
      · rw [safe_bind]
        apply (closed.executeReplay adapters hold).mono
        intro result later _ holdLater
        cases result with
        | ok data => exact ⟨holdLater, trivial⟩
        | error error => exact ⟨holdLater, trivial⟩
      · exact ⟨hold, trivial⟩
  | invalidate cause =>
      unfold SelfService.portBody
      rw [safe_bind, safe_attempt]
      apply (closed.deleteByPattern hold).mono
      intro result later _ holdLater
      exact ⟨holdLater, trivial⟩
  | refresh cause =>
      unfold SelfService.portBody
      rw [safe_bind, safe_attempt]
      apply (closed.enqueue hold).mono
      intro result later _ holdLater
      exact ⟨holdLater, trivial⟩

end Rules

/-! ### Whole runs -/

/-- An invariant that every step of the registry and every move of its
environment keeps. -/
structure Stable (d : Deployment X) (service : Service X) (promise : Promise X)
    (Inv : PortSnapshot X → Prop) : Prop where
  closed : ∀ tid i, Closed d service promise Inv tid i
  adapters : ∀ tid i, AdaptersKeep d service promise Inv tid i
  started : ∀ s fresh call, Inv s → (∀ entry ∈ s.trace, entry.tid ≠ fresh) →
    Inv (s.log (portSystem d service) fresh (.started call))
  finished : ∀ s tid call result, Inv s → s.Saw tid (.started (.inl call)) →
    CallOutcome d tid s.trace call result →
    Inv (s.log (portSystem d service) tid (.finished (.inl call) result))
  external : ∀ s event state, Inv s → World.external d s.state event = some state →
    Inv { s with state := state }

/-- With the calls of the service safe as well, the invariant holds in every run. -/
theorem Stable.verified {d : Deployment X} {service : Service X} {promise : Promise X}
    {Inv : PortSnapshot X → Prop} (stable : Stable d service promise Inv)
    (bodies : ∀ s tid call, Inv s → s.Begins tid (.inr call) →
      Safe (portSystem d service) Inv tid
        (fun result later => Inv (later.log (portSystem d service) tid
          (.finished (.inr call) result)))
        (service.body call) s) :
    Verified (portSystem d service) Inv where
  starts := stable.started
  bodies s tid call hold begins := by
    cases call with
    | inl call =>
        apply ((stable.closed tid call.invocation).portBody call
          (stable.adapters tid call.invocation) hold).mono
        rintro result later grown ⟨holdLater, outcome⟩
        exact stable.finished later tid call result holdLater (begins.seen.mono grown) outcome
    | inr call => exact bodies s tid call hold begins
  externals := stable.external

/-- An adapter that only sends its request keeps whatever its answer keeps. -/
theorem remoteAdapter_keeps {d : Deployment X} {service : Service X}
    {Inv : PortSnapshot X → Prop} {tid : Nat} {i : Invocation} {ref : AdapterRef}
    {context : Option RequestContext} {method : String} {params : JsValue}
    (kept : ∀ s answer, Inv s → Inv (s.log (portSystem d service) tid
      (.answered (.inl (.adapter ref context method params)) answer)))
    {s : PortSnapshot X} (hold : Inv s) :
    Safe (portSystem d service) Inv tid
      (fun outcome later => Inv later ∧ noPromise i outcome later.trace)
      (remoteAdapter ref context method params : PortTask X JsValue) s := by
  constructor
  · exact hold
  · intro now follows holdNow answer world performed
    cases performed
    have told := kept now answer holdNow
    constructor
    · exact told
    · intro later after holdLater
      cases answer with
      | ok data => exact ⟨holdLater, trivial⟩
      | error error => exact ⟨holdLater, trivial⟩

/-- Remote adapters keep properties of traces. -/
theorem adaptersKeep_of_trace {d : Deployment X} {service : Service X} {P : PortTrace X → Prop}
    (remote : d.adapter = remoteAdapter)
    (kept : ∀ trace entry, OfRegistry entry.event → P trace → P (trace ++ [entry]))
    (tid : Nat) (i : Invocation) :
    AdaptersKeep d service noPromise (fun s => P s.trace) tid i := by
  intro adapter s hold
  rw [remote]
  apply remoteAdapter_keeps _ hold
  intro now answer holdNow
  apply kept now.trace _ _ holdNow
  trivial

/-- Properties of traces that survive everything but what the services log. -/
theorem stable_of_trace {d : Deployment X} {service : Service X} {P : PortTrace X → Prop}
    (remote : d.adapter = remoteAdapter)
    (kept : ∀ trace entry, OfRegistry entry.event → P trace → P (trace ++ [entry]))
    (started : ∀ trace entry call, entry.event = .started call → P trace → P (trace ++ [entry]))
    (finished : ∀ trace entry call result, entry.event = .finished (.inl call) result →
      P trace → P (trace ++ [entry])) :
    Stable d service noPromise (fun s => P s.trace) where
  closed := closed_of_trace kept
  adapters := adaptersKeep_of_trace remote kept
  started _ _ call hold _ := started _ _ call rfl hold
  finished _ _ call result hold _ _ := finished _ _ call result rfl hold
  external _ _ _ hold _ := hold

end SelfService
