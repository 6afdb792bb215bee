/-
Writes that are queued when they fail.

A ledger holds what the adapter and the queue answered a call.  On a port whose
policy is `always` a call that is not a hit ends in one of three ways, which the
ledger tells apart.
-/

import SelfService.Port.BreakerGate
import SelfService.Port.PortUpdates

namespace SelfService

open Data EventLoop PortRegistry

/-- What the adapter answered one call, and what jobs it queued with what answer. -/
structure WriteLedger where
  outcomes : List (Except Exn JsValue)
  jobs : List (ReplayJobPayload × Reply (Option String))

namespace WriteLedger

def empty : WriteLedger := ⟨[], []⟩

def observe (ledger : WriteLedger) :
    Event (portSignature registryOnly) Resolution → WriteLedger
  | .answered (.inl (.adapter _ _ _ _)) outcome =>
      { ledger with outcomes := ledger.outcomes ++ [outcome] }
  | .answered (.inl (.queueAdd payload)) reply =>
      { ledger with jobs := ledger.jobs ++ [(payload, reply)] }
  | _ => ledger

/-- The call never reached its adapter, or reached it once and was rejected. -/
def Unmade (ledger : WriteLedger) : Prop :=
  ledger.outcomes = [] ∨ ∃ error, ledger.outcomes = [.error error]

/-- One adapter call was made, its data is returned and no job is queued. -/
def Made (result : Except Exn Resolution) (ledger : WriteLedger) : Prop :=
  ∃ reply : PortResult, result = .ok (.port reply) ∧ reply.fromCache = false ∧
    ledger = ⟨[.ok reply.data], []⟩

/-- One job is queued, which carries the call, and its id is told. -/
def Queued (i : Invocation) (result : Except Exn Resolution) (ledger : WriteLedger) : Prop :=
  ledger.Unmade ∧ ∃ jobId, ledger.jobs = [(replayPayload i, .ok jobId)] ∧
    result = .error (.portQueued i.portName (jobId.getD "unknown"))

/-- The queue failed, and its error is thrown. -/
def Refused (i : Invocation) (result : Except Exn Resolution) (ledger : WriteLedger) : Prop :=
  ledger.Unmade ∧ ∃ applied reason, ledger.jobs = [(replayPayload i, .failed applied reason)] ∧
    result = .error (.error reason)

/-- An idempotency or cache hit. -/
def Hit (result : Except Exn Resolution) (ledger : WriteLedger) : Prop :=
  ledger = .empty ∧ ∃ reply : PortResult, result = .ok (.port reply) ∧ reply.fromCache = true ∧
    reply.degraded = false

/-- How a call on a queued port ends. -/
def Ends (i : Invocation) (result : Except Exn Resolution) (ledger : WriteLedger) : Prop :=
  Hit result ledger ∨ Made result ledger ∨ Queued i result ledger ∨ Refused i result ledger

/-- The three ways exclude each other. -/
theorem Made.not_queued {i : Invocation} {result : Except Exn Resolution} {ledger : WriteLedger}
    (made : Made result ledger) : ¬ Queued i result ledger ∧ ¬ Refused i result ledger := by
  obtain ⟨reply, rfl, -, rfl⟩ := made
  constructor
  · rintro ⟨-, jobId, jobs, -⟩
    cases jobs
  · rintro ⟨-, applied, reason, jobs, -⟩
    cases jobs

theorem Queued.not_refused {i : Invocation} {result : Except Exn Resolution}
    {ledger : WriteLedger} (queued : Queued i result ledger) : ¬ Refused i result ledger := by
  obtain ⟨-, jobId, jobs, -⟩ := queued
  rintro ⟨-, applied, reason, other, -⟩
  cases jobs.symm.trans other

end WriteLedger

section Calls

variable {wiring : Wiring} {i : Invocation} {ledger : WriteLedger}

/-- What a call of the registry ends in, where it is not wrapped yet. -/
abbrev EndsWith (i : Invocation) (result : Except Exn PortResult) (ledger : WriteLedger) : Prop :=
  WriteLedger.Ends i (result.map Resolution.port) ledger

/-- A command of the cache is not in the ledger. -/
abbrev Unlisted (task : PortTask registryOnly Unit) (ledger : WriteLedger) : Prop :=
  Observed WriteLedger.observe (fun result last => result = .ok () ∧ last = ledger) task ledger

theorem Unlisted.andThen {first second : PortTask registryOnly Unit}
    (unlisted : Unlisted first ledger) (next : Unlisted second ledger) :
    Unlisted (first >>= fun _ => second) ledger := by
  apply Observed.andThen unlisted
  · rintro error last ⟨wrong, -⟩
    cases wrong
  · rintro value last ⟨-, rfl⟩
    exact next

theorem unlisted_set (key : String) (value : JsValue) (ttl : Option Nat) :
    Unlisted (do
      let _ ← (CacheService.set key value ttl : PortTask registryOnly Unit).attempt
      return ()) ledger := by
  intro (answer : (CacheCommand.set key value ttl).Answer)
  cases answer with
  | ok value => exact ⟨rfl, rfl⟩
  | failed applied reason => exact ⟨rfl, rfl⟩

theorem unlisted_postProcess (entry : PortEntry) (data : JsValue) :
    Unlisted (postProcess wiring.remote i entry data) ledger := by
  have invalidated : Unlisted (invalidatePort wiring.remote i) ledger := by
    unfold invalidatePort
    split
    · exact fun _ => ⟨rfl, rfl⟩
    · exact ⟨rfl, rfl⟩
  have written : Unlisted (writeCache wiring.remote i entry data) ledger := by
    unfold writeCache
    split
    · exact fun _ => unlisted_set _ _ _
    · exact ⟨rfl, rfl⟩
  have filled : Unlisted (fillSlot i data) ledger := fun _ => ⟨rfl, rfl⟩
  have recorded : Unlisted (recordResult wiring.remote i data) ledger := by
    unfold recordResult
    split
    · split
      · exact unlisted_set _ _ _
      · exact ⟨rfl, rfl⟩
    · exact ⟨rfl, rfl⟩
  have stored := written.andThen (filled.andThen recorded)
  unfold postProcess
  split
  · exact invalidated.andThen stored
  · exact stored

theorem ends_enqueueAndReject (enabled : wiring.queueService = some true)
    (unmade : ledger.Unmade) (unqueued : ledger.jobs = []) :
    Observed WriteLedger.observe (EndsWith i) (enqueueAndReject wiring.remote i) ledger := by
  have enabled : wiring.remote.queueService = some true := enabled
  unfold enqueueAndReject QueueService.enqueue
  rw [enabled]
  intro (reply : Reply (Option String))
  have listed : ledger.jobs ++ [(replayPayload i, reply)] = [(replayPayload i, reply)] := by
    rw [unqueued, List.nil_append]
  cases reply with
  | ok jobId => exact Or.inr (Or.inr (Or.inl ⟨unmade, jobId, listed, rfl⟩))
  | failed applied reason => exact Or.inr (Or.inr (Or.inr ⟨unmade, applied, reason, listed, rfl⟩))

variable {entry : PortEntry} {adapter : AdapterKind} {startTime : Nat}

theorem ends_executeWithQueue (enabled : wiring.queueService = some true)
    (always : entry.config.queuePolicy = .always) (cause : Option Exn) (unmade : ledger.Unmade)
    (unqueued : ledger.jobs = []) :
    Observed WriteLedger.observe (EndsWith i)
      (executeWithQueue wiring.remote i entry adapter startTime cause) ledger := by
  have enabled' : wiring.remote.queueService = some true := enabled
  unfold executeWithQueue
  rw [always, enabled', if_neg (by simp), if_neg (by simp)]
  exact ends_enqueueAndReject enabled unmade unqueued

theorem ends_executeThroughBreaker (enabled : wiring.queueService = some true)
    (always : entry.config.queuePolicy = .always) :
    Observed WriteLedger.observe (EndsWith i)
      (executeThroughBreaker wiring.remote i entry adapter startTime) .empty := by
  unfold executeThroughBreaker
  intro world
  change Observed _ _ ((if rejectsNow world i.portName = true then _ else _ :
    PortTask registryOnly PortResult)) _
  split
  · exact ends_executeWithQueue enabled always none (Or.inl rfl) rfl
  · intro now (outcome : Except Exn JsValue)
    cases outcome with
    | ok data =>
        intro later final
        change Observed _ _ (postProcess wiring.remote i entry data >>= _) _
        apply Observed.andThen (unlisted_postProcess entry data)
        · rintro error last ⟨wrong, -⟩
          cases wrong
        · rintro value last ⟨-, rfl⟩
          exact Or.inr (Or.inl ⟨_, rfl, rfl, rfl⟩)
    | error error =>
        intro later
        exact ends_executeWithQueue enabled always (some error) (Or.inr ⟨error, rfl⟩) rfl

theorem ends_executeThroughCache (enabled : wiring.queueService = some true)
    (always : entry.config.queuePolicy = .always) :
    Observed WriteLedger.observe (EndsWith i)
      (executeThroughCache wiring.remote i entry adapter startTime) .empty := by
  unfold executeThroughCache
  split
  · intro (reply : Reply JsValue) world
    change Observed _ _ ((if (reply.getD .null).isNullish = true then _ else _ :
      PortTask registryOnly PortResult)) _
    split
    · exact ends_executeThroughBreaker enabled always
    · exact Or.inl ⟨rfl, _, rfl, rfl, rfl⟩
  · exact ends_executeThroughBreaker enabled always

theorem ends_executeRegistered (enabled : wiring.queueService = some true)
    (always : entry.config.queuePolicy = .always) :
    Observed WriteLedger.observe (EndsWith i)
      (executeRegistered wiring.remote i entry adapter startTime) .empty := by
  unfold executeRegistered
  split
  · split
    · intro (reply : Reply JsValue) world
      change Observed _ _ ((if (reply.getD .null).isNullish = true then _ else _ :
        PortTask registryOnly PortResult)) _
      split
      · exact ends_executeThroughCache enabled always
      · exact Or.inl ⟨rfl, _, rfl, rfl, rfl⟩
    · exact ends_executeThroughCache enabled always
  · exact ends_executeThroughCache enabled always

/-- Of all ports only the entry of its own matters to a call. -/
theorem ends_execute {ports : OrderedMap String PortEntry}
    (enabled : wiring.queueService = some true) (registered : ports.get? i.portName = some entry)
    (always : entry.config.queuePolicy = .always) :
    Watched (fun world : World registryOnly => world.ports = ports) WriteLedger.observe
      (fun _ _ => True) (WriteLedger.Ends i)
      (wiring.registry.body (.inl (.execute i))) .empty := by
  change Watched _ _ _ _
    (execute wiring.remote i >>= fun result => .done (Resolution.port result)) _
  rw [watched_bind]
  unfold execute
  refine ⟨trivial, ?_⟩
  rintro world rfl
  simp only [Task.done_bind, registered]
  apply ((ends_executeRegistered enabled always).watched fun _ _ => trivial).mono
  intro result last ends
  cases result with
  | ok reply => exact ends
  | error error => exact ends

end Calls

/-! ### In every run -/

/-- Exactly one of three. -/
def OneOf (first second third : Prop) : Prop :=
  (first ∧ ¬ second ∧ ¬ third) ∨ (¬ first ∧ second ∧ ¬ third) ∨ ¬ first ∧ ¬ second ∧ third

section Runs

variable {wiring : Wiring} {world : World registryOnly} {p : Pool (portSignature registryOnly) Resolution}

/-- What the adapter and the queue have answered a call. -/
def ledgerOf (tid : Nat) (trace : RegistryTrace) : WriteLedger :=
  observation WriteLedger.observe .empty (ownEntries tid trace)

/-- In every run, a call on a port with policy `always` and an enabled queue that is not a hit is
made, queued or refused, and never answered with fallback data. -/
theorem queued_writes_conserved (enabled : wiring.queueService = some true) {i : Invocation}
    {entry : PortEntry} (registered : world.ports.get? i.portName = some entry)
    (always : entry.config.queuePolicy = .always) (reached : Reachable wiring.registry world p)
    {before after : RegistryTrace} {tid time : Nat} {result : Except Exn Resolution}
    (split : p.snapshot.trace = before ++ ⟨tid, time, .finished (.inl (.execute i)) result⟩ :: after) :
    (¬ WriteLedger.Hit result (ledgerOf tid before) →
      OneOf (WriteLedger.Made result (ledgerOf tid before))
        (WriteLedger.Queued i result (ledgerOf tid before))
        (WriteLedger.Refused i result (ledgerOf tid before))) ∧
      ∀ reply : PortResult, result = .ok (.port reply) → reply.fromCache = true →
        WriteLedger.Hit result (ledgerOf tid before) := by
  have ends : WriteLedger.Ends i result (ledgerOf tid before) :=
    (kept_ports world.ports).watched rfl reached (fun _ _ => rfl)
      (ends_execute enabled registered always) split
  constructor
  · intro missed
    rcases ends.resolve_left missed with made | queued | refused
    · exact Or.inl ⟨made, made.not_queued⟩
    · exact Or.inr (Or.inl ⟨fun made => made.not_queued.1 queued, queued, queued.not_refused⟩)
    · exact Or.inr (Or.inr ⟨fun made => made.not_queued.2 refused,
        fun queued => queued.not_refused refused, refused⟩)
  · rintro reply rfl cached
    rcases ends with hit | ⟨made, same, fresh, -⟩ | ⟨-, jobId, -, wrong⟩ | ⟨-, applied, reason, -, wrong⟩
    · exact hit
    · cases same
      cases cached.symm.trans fresh
    · cases wrong
    · cases wrong

end Runs

/-! ### A payment at an open breaker -/

/-- The payment is queued. -/
def chargeQueued : Pool (portSignature registryOnly) Resolution :=
  (chargeResumed.run gateWiring.registry
    [.answer 0 (.inl (.queueAdd (replayPayload openCharge))) (.ok (some "7") : Reply (Option String)),
      .resume 0]).getD chargeResumed

theorem queued_writes_conserved_payment :
    WriteLedger.Queued openCharge (.error (.portQueued "payment" "7"))
      (ledgerOf 0 (chargeQueued.snapshot.trace.take 3)) := by
  have reached : Reachable gateWiring.registry openWorld chargeQueued :=
    ⟨[.call (.inl (.execute openCharge)), .resume 0,
      .answer 0 (.inl (.queueAdd (replayPayload openCharge))) (.ok (some "7") : Reply (Option String)),
      .resume 0], rfl⟩
  have registered : openWorld.ports.get? openCharge.portName =
      some ⟨"payment", resolveConfig "payment" (apiEndpoints.get? "payment")⟩ := rfl
  have split : chargeQueued.snapshot.trace = chargeQueued.snapshot.trace.take 3 ++
      [⟨0, 1700000000000, .finished (.inl (.execute openCharge))
        (.error (.portQueued "payment" "7"))⟩] := rfl
  have one := (queued_writes_conserved rfl registered rfl reached split).1 (by
    rintro ⟨-, reply, wrong, -⟩
    cases wrong)
  rcases one with ⟨⟨reply, wrong, -⟩, -⟩ | ⟨-, queued, -⟩ | ⟨-, -, -, applied, reason, jobs, -⟩
  · cases wrong
  · exact queued
  · cases jobs

end SelfService
