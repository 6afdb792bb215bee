/-
Results of mutating calls.

A write may be answered by its own adapter call or by a result that was recorded
under its idempotency key.  The registry also answers it from the fallback slot,
and it records results under the key alone, so the guarantee needs both the slot
and the keys to be used for one operation only.
-/

import SelfService.Port.Provenance

namespace SelfService

open Data EventLoop PortRegistry

/-! ### What is recorded under an idempotency key -/

section Records

variable {X : Extension} (d : Deployment X)

/-- The value comes from a successful call that carried a key with this cache key
and stored its result there. -/
def Recorded (trace : PortTrace X) (key : String) (data : JsValue) : Prop :=
  ∃ tid value ttl reply adapter i rawKey,
    Saw trace tid (.answered (.inl (.cache (.set key value ttl))) reply) ∧
    Saw trace tid (.marked (.inl (.settled adapter i (.ok value)))) ∧
    d.backend.stored value = data ∧ i.idempotencyKey = some rawKey ∧
    InboundIdempotencyService.buildCacheKey d rawKey = key

def RecordLaw (before : PortTrace X) (entry : PortTraceEntry X) : Prop :=
  ∀ rawKey data, entry.event = .answered
      (.inl (.cache (.get (InboundIdempotencyService.buildCacheKey d rawKey)))) (Reply.ok data) →
    data ≠ .null → Recorded d before (InboundIdempotencyService.buildCacheKey d rawKey) data

/-- Every entry under an idempotency key was recorded, and so was every value read. -/
structure Records (s : PortSnapshot X) : Prop where
  entries : ∀ rawKey entry,
    s.state.cache.get? (getFullKey d.backend.options
      (InboundIdempotencyService.buildCacheKey d rawKey)) = some entry →
    Recorded d s.trace (InboundIdempotencyService.buildCacheKey d rawKey) entry.value
  law : Always (RecordLaw d) s.trace

variable {d} {service : Service X} {promise : Promise X} {s : PortSnapshot X} {tid : Nat}

theorem Recorded.mono {early late : PortTrace X} {key : String} {data : JsValue}
    (recorded : Recorded d early key data) (grown : early <+: late) :
    Recorded d late key data := by
  obtain ⟨tid, value, ttl, reply, adapter, i, rawKey, ⟨wrote, write⟩, ⟨ended, settled⟩, rest⟩ :=
    recorded
  exact ⟨tid, value, ttl, reply, adapter, i, rawKey, ⟨wrote, grown.subset write⟩,
    ⟨ended, grown.subset settled⟩, rest⟩

/-- Idempotency keys and read-cache keys never meet. -/
theorem buildCacheKey_ne (rawKey portName method : String) (params : JsValue) :
    buildCacheKey d portName method params ≠
      InboundIdempotencyService.buildCacheKey d rawKey :=
  (recordKey_ne _ _ _).symm

/-- An event that is no read of the cache, with a store that gained no entry. -/
theorem Records.observe (hold : Records d s) {world : World X} {event : PortEvent X}
    (within : world.cache.Within s.state.cache)
    (unread : ∀ key data, event ≠ .answered (.inl (.cache (.get key))) data) :
    Records d ((⟨world, s.trace⟩ : PortSnapshot X).log (portSystem d service) tid event) := by
  have grown := Snapshot.extends_log (portSystem d service) ⟨world, s.trace⟩ tid event
  constructor
  · intro rawKey entry found
    exact (hold.entries rawKey entry (within _ _ found)).mono grown
  · rw [Snapshot.log_trace, always_snoc]
    constructor
    · exact hold.law
    · intro rawKey data read
      exact absurd read (unread _ _)

/-- What the answer to one of the call's own cache commands leaves in the store. -/
theorem Records.entries_answer (hold : Records d s) {i : Invocation} {command : CacheCommand}
    {answer : command.Answer} {cache : Store} (issued : Issues d tid i s (.cache command))
    (performed : d.backend.perform s.state.now s.state.cache command answer = some cache)
    {later : PortSnapshot X} (grown : s.Extends later)
    (told : later.Saw tid (.answered (.inl (.cache command)) answer)) {rawKey : String}
    {entry : CacheEntry}
    (found : cache.get? (getFullKey d.backend.options
      (InboundIdempotencyService.buildCacheKey d rawKey)) = some entry) :
    Recorded d later.trace (InboundIdempotencyService.buildCacheKey d rawKey) entry.value := by
  rcases Backend.get?_of_perform performed found with kept | ⟨key, value, written, same, stored⟩
  · exact (hold.entries rawKey entry kept).mono grown
  · have sameKey := getFullKey_injective _ same
    cases issued with
    | record ownKey adapter data keyed seen =>
        cases written
        rw [sameKey, stored]
        exact ⟨tid, value, _, answer, adapter, i, ownKey, told, seen.mono grown, rfl, keyed, rfl⟩
    | fill adapter data cachedAt ttl readOnly seen =>
        cases written
        exact absurd sameKey.symm (buildCacheKey_ne _ _ _ _)
    | retrieve => cases written
    | lookup => cases written
    | erase => cases written
    | list => cases written
    | sweep => cases written

theorem Records.answer (hold : Records d s) {i : Invocation} {request : PortRequest}
    {answer : request.Answer} {world : World X} (issued : Issues d tid i s request)
    (performed : performPort d s.state request answer = some world) :
    Records d ((⟨world, s.trace⟩ : PortSnapshot X).log (portSystem d service) tid
      (.answered (.inl request) answer)) := by
  cases request with
  | adapter ref context method params => cases issued
  | queueAdd payload =>
      have cache : world.cache = s.state.cache := by
        cases answer with
        | ok jobId => cases performed; rfl
        | failed applied reason => cases applied <;> cases performed <;> rfl
      apply hold.observe
      · rw [cache]
        exact OrderedMap.within_refl _
      · intro key data same
        cases same
  | cache command =>
      obtain ⟨-, cache, served, rfl⟩ := performPort_cache performed
      have grown := Snapshot.extends_log (portSystem d service)
        ⟨{ s.state with cache := cache }, s.trace⟩ tid
        (.answered (.inl (.cache command)) answer)
      have told := Snapshot.saw_log (portSystem d service)
        ⟨{ s.state with cache := cache }, s.trace⟩ tid
        (.answered (.inl (.cache command)) answer)
      constructor
      · intro rawKey entry found
        exact hold.entries_answer issued served grown told found
      · rw [Snapshot.log_trace, always_snoc]
        constructor
        · exact hold.law
        · intro rawKey data read present
          cases read
          obtain ⟨entry, found, _, same⟩ := Backend.get_found served present
          rw [← same]
          exact hold.entries rawKey entry found

theorem records_closed (tid : Nat) (i : Invocation) : Closed d service promise (Records d) tid i := by
  intro s later step hold
  cases step with
  | request =>
      exact hold.observe (OrderedMap.within_refl _) fun _ _ same => by cases same
  | breakers breakers => exact ⟨hold.entries, hold.law⟩
  | invalidate =>
      constructor
      · intro rawKey entry found
        exact hold.entries rawKey entry (OrderedMap.eraseWhere_within _ _ _ _ found)
      · exact hold.law
  | answer request answer world issued performed => exact hold.answer issued performed
  | settle adapter outcome promised =>
      exact hold.observe (OrderedMap.within_refl _) fun _ _ same => by cases same
  | fill adapter data seen =>
      exact Records.observe hold (OrderedMap.within_refl _) fun _ _ same => by cases same
  | fallBack data slot present =>
      exact hold.observe (OrderedMap.within_refl _) fun _ _ same => by cases same
  | detach fresh call other kind =>
      exact hold.observe (OrderedMap.within_refl _) fun _ _ same => by cases same

theorem records_external {event : PortExternal} {state : World X} (hold : Records d s)
    (moved : World.external d s.state event = some state) :
    Records d { s with state := state } := by
  obtain ⟨_, rfl⟩ | ⟨_, _, rfl⟩ | ⟨_, _, rfl⟩ := external_cases moved
  · exact ⟨hold.entries, hold.law⟩
  · constructor
    · intro rawKey entry found
      exact hold.entries rawKey entry (OrderedMap.erase_within _ _ _ _ found)
    · exact hold.law
  · exact ⟨hold.entries, hold.law⟩

end Records

/-- No result is recorded yet. -/
def NoRecords (wiring : Wiring) (world : World registryOnly) : Prop :=
  ∀ rawKey, world.cache.get? (getFullKey wiring.backend.options
    (InboundIdempotencyService.buildCacheKey wiring.remote rawKey)) = none

theorem records_reachable {wiring : Wiring} {world : World registryOnly}
    (empty : NoRecords wiring world) {p : Pool (portSignature registryOnly) Resolution}
    (reached : Reachable wiring.registry world p) : Records wiring.remote p.snapshot := by
  have stable : Stable wiring.remote noService noPromise (Records wiring.remote) :=
    { closed := records_closed
      adapters := fun _ _ _ _ hold => remoteAdapter_keeps (fun _ _ hold =>
        hold.observe (OrderedMap.within_refl _) fun _ _ same => by cases same) hold
      started := fun _ _ _ hold _ =>
        hold.observe (OrderedMap.within_refl _) fun _ _ same => by cases same
      finished := fun _ _ _ _ hold _ _ =>
        hold.observe (OrderedMap.within_refl _) fun _ _ same => by cases same
      external := fun _ _ _ hold moved => records_external hold moved }
  apply (stable.verified fun _ _ call => call.elim).reachable _ reached
  constructor
  · intro rawKey entry found
    have absent := (empty rawKey).symm.trans found
    cases absent
  · exact always_nil _

/-! ### Results of writes -/

section Writes

variable (wiring : Wiring)

/-- This task's own adapter call succeeded with this result. -/
def ownSuccess (tid : Nat) (i : Invocation) (data : JsValue)
    (entry : PortTraceEntry registryOnly) : Bool :=
  match entry.event with
  | .marked (.inl (.settled _ j (.ok value))) => entry.tid = tid && j = i && value = data
  | _ => false

/-- A successful call of the same operation under the same idempotency key. -/
def sameOperation (i j : Invocation) : Bool :=
  j.portName = i.portName && j.method = i.method && j.idempotencyKey = i.idempotencyKey

def succeededLike (tid : Nat) (i : Invocation) (value : JsValue)
    (entry : PortTraceEntry registryOnly) : Bool :=
  match entry.event with
  | .marked (.inl (.settled _ j (.ok found))) =>
      entry.tid = tid && sameOperation i j && found = value
  | _ => false

/-- Some call of the same operation stored, under the key of `i`, what reads as `data`. -/
def storedLike (i : Invocation) (data : JsValue) (before : PortTrace registryOnly)
    (entry : PortTraceEntry registryOnly) : Bool :=
  match entry.event with
  | .answered (.inl (.cache (.set key value _))) _ =>
      i.idempotencyKey.any (fun rawKey =>
        key = InboundIdempotencyService.buildCacheKey wiring.remote rawKey) &&
      wiring.backend.stored value = data && before.any (succeededLike entry.tid i value)
  | _ => false

/-- A write that resolves was carried out, by this call or by the one that recorded
its result. -/
def writeIsReal (before : PortTrace registryOnly) (entry : PortTraceEntry registryOnly) : Bool :=
  match entry.event with
  | .finished (.inl (.execute i)) (.ok (.port result)) =>
      !isMutationMethod i.method || before.any (ownSuccess entry.tid i result.data) ||
        before.any (storedLike wiring i result.data before)
  | _ => true

/-- The task found a recorded result under the key of `i`. -/
def recordHit (tid : Nat) (i : Invocation) (entry : PortTraceEntry registryOnly) : Bool :=
  match entry.event with
  | .answered (.inl (.cache (.get key))) (Reply.ok data) =>
      entry.tid = tid && i.idempotencyKey.any (fun rawKey =>
        key = InboundIdempotencyService.buildCacheKey wiring.remote rawKey) && !data.isNullish
  | _ => false

def sharesCacheKey (i j : Invocation) : Bool :=
  i.idempotencyKey.any fun mine => j.idempotencyKey.any fun other =>
    InboundIdempotencyService.buildCacheKey wiring.remote mine =
      InboundIdempotencyService.buildCacheKey wiring.remote other

/-- A success under a key that `i` shares is one of the same operation. -/
def keyAgrees (i : Invocation) (entry : PortTraceEntry registryOnly) : Bool :=
  match entry.event with
  | .marked (.inl (.settled _ j (.ok _))) => !sharesCacheKey wiring i j || sameOperation i j
  | _ => true

/-- No write is answered from the fallback slot; and where a write finds a recorded
result, its key was used for this operation only. -/
def writesKeepApart (before : PortTrace registryOnly)
    (entry : PortTraceEntry registryOnly) : Bool :=
  match entry.event with
  | .marked (.inl (.fellBack i _)) => !isMutationMethod i.method
  | .finished (.inl (.execute i)) _ =>
      !isMutationMethod i.method || !before.any (recordHit wiring entry.tid i) ||
        before.all (keyAgrees wiring i)
  | _ => true

variable {wiring}

theorem storedLike_of_recorded {trace : PortTrace registryOnly} {i : Invocation} {key : String}
    {rawKey : String} {data : JsValue} (keyed : i.idempotencyKey = some rawKey)
    (same : key = InboundIdempotencyService.buildCacheKey wiring.remote rawKey)
    (recorded : Recorded wiring.remote trace key data)
    (agrees : trace.all (keyAgrees wiring i) = true) :
    trace.any (storedLike wiring i data trace) = true := by
  obtain ⟨tid, value, ttl, reply, adapter, j, otherKey, ⟨wrote, write⟩, ⟨ended, settled⟩,
    stored, otherKeyed, otherSame⟩ := recorded
  have shared : sharesCacheKey wiring i j = true := by
    simp [sharesCacheKey, keyed, otherKeyed, otherSame, same]
  have agree := List.all_eq_true.mp agrees _ settled
  simp only [keyAgrees, shared, Bool.not_true, Bool.false_or] at agree
  have succeeded : trace.any (succeededLike tid i value) = true :=
    List.any_eq_true.mpr ⟨_, settled, by simp [succeededLike, agree]⟩
  have readsAs : wiring.backend.stored value = data := stored
  apply List.any_eq_true.mpr
  exact ⟨_, write, by simp [storedLike, keyed, same, readsAs, succeeded]⟩

end Writes

/-- While writes keep apart, a write that resolves was carried out. -/
theorem write_is_real (wiring : Wiring) (world : World registryOnly)
    (empty : NoRecords wiring world) (p : Pool (portSignature registryOnly) Resolution)
    (reached : Reachable wiring.registry world p)
    (apart : Passes (writesKeepApart wiring) p.snapshot.trace) :
    Passes (writeIsReal wiring) p.snapshot.trace := by
  have records := records_reachable empty reached
  intro before entry after split
  have ended := accounted_reachable reached before entry after split
  have keptApart := apart before entry after split
  unfold writeIsReal
  split
  · rename_i i result finished
    cases write : isMutationMethod i.method with
    | false => rfl
    | true =>
        unfold EndLaw at ended
        rw [finished] at ended
        obtain ⟨_, same, outcome⟩ := ended
        cases same
        rw [Bool.not_true, Bool.false_or, Bool.or_eq_true]
        cases outcome with
        | fresh adapter result seen healthy =>
            obtain ⟨time, member⟩ := seen
            left
            exact List.any_eq_true.mpr ⟨_, member, by simp [ownSuccess]⟩
        | cached entry result readOnly seen present same healthy =>
            rw [readOnly] at write
            cases write
        | degraded result seen ill =>
            obtain ⟨time, member⟩ := seen
            obtain ⟨past, rest, splitBefore⟩ := List.append_of_mem member
            have served := apart past _ (rest ++ entry :: after) (by
              rw [split, splitBefore, List.append_assoc, List.cons_append])
            simp [writesKeepApart, write] at served
        | recorded rawKey result keyed seen present healthy =>
            right
            obtain ⟨time, member⟩ := seen
            have hit : before.any (recordHit wiring entry.tid i) = true :=
              List.any_eq_true.mpr ⟨_, member, by simp [recordHit, keyed, present]⟩
            have agrees : before.all (keyAgrees wiring i) = true := by
              simpa [writesKeepApart, finished, write, hit] using keptApart
            obtain ⟨past, rest, splitBefore⟩ := List.append_of_mem member
            have law := records.law.earlier ⟨entry :: after, split.symm⟩ past _ rest splitBefore
            have recorded := law rawKey result.data rfl (by
              rintro null
              rw [null] at present
              cases present)
            have grown : past <+: before := ⟨_, splitBefore.symm⟩
            exact storedLike_of_recorded keyed rfl (recorded.mono grown) agrees
  · rfl

/-! ### A notification that was never sent -/

/-- The notification port has no entry in the YAML file: it is live and never queued. -/
def notificationWorld : World registryOnly :=
  register "notification" (bareWorld 1700000000000 .empty apiEndpoints ())

/-- SHA-256 of the only idempotency key below. -/
def notificationWiring : Wiring :=
  .configured true (fun _ => ⟨"7b409f932d2c88e9", isHex_key⟩)
    fun _ => ⟨"e3b0c44298fc1c14", isHex_empty⟩

def dispatch (customerId : String) (idempotencyKey : Option String) : Invocation where
  context := none
  portName := "notification"
  method := "dispatch-notification"
  params := .obj [("customerId", .str customerId), ("type", .str "payment_completed")]
  idempotencyKey := idempotencyKey

def sent (customerId : String) : JsValue :=
  .obj [("notificationId", .str ("N-" ++ customerId)), ("status", .str "sent")]

def adapterOf (i : Invocation) : PortRequest :=
  .adapter ⟨"notification", .live⟩ i.context i.method i.params

/-- The first customer is notified; the downstream is down for the second one. -/
def failedDispatch : List (Action (portSignature registryOnly) PortExternal) :=
  [.call (.inl (.execute (dispatch "KH-1" none))), .resume 0,
    .answer 0 (.inl (adapterOf (dispatch "KH-1" none))) (Except.ok (sent "KH-1")), .resume 0,
    .call (.inl (.execute (dispatch "KH-2" none))), .resume 2,
    .answer 2 (.inl (adapterOf (dispatch "KH-2" none)))
      (Except.error (.portDownstream "notification" 503 "Service Unavailable" "http://down")),
    .resume 2]

def recordKey : String :=
  InboundIdempotencyService.buildCacheKey notificationWiring.remote "evt-1"

/-- A dispatch under a key, and its retry. -/
def retriedDispatch : List (Action (portSignature registryOnly) PortExternal) :=
  [.call (.inl (.execute (dispatch "KH-1" (some "evt-1")))), .resume 0,
    .answer 0 (.inl (.cache (.get recordKey))) (Reply.ok .null), .resume 0,
    .answer 0 (.inl (adapterOf (dispatch "KH-1" (some "evt-1")))) (Except.ok (sent "KH-1")),
    .resume 0,
    .answer 0 (.inl (.cache (.set recordKey (sent "KH-1") (some 86400)))) (Reply.ok ()),
    .resume 0,
    .call (.inl (.execute (dispatch "KH-1" (some "evt-1")))), .resume 2,
    .answer 2 (.inl (.cache (.get recordKey))) (Reply.ok (sent "KH-1")), .resume 2]

/-- The second customer's dispatch failed and resolves with the first one's receipt. -/
theorem write_never_sent :
    ∃ p, Reachable notificationWiring.registry notificationWorld p ∧
      ¬ Passes (writeIsReal notificationWiring) p.snapshot.trace :=
  ⟨_, reachable_run notificationWiring.registry notificationWorld failedDispatch
    (by decide +kernel), by decide +kernel⟩

theorem write_is_real_retried :
    ∃ p, Reachable notificationWiring.registry notificationWorld p ∧
      p.snapshot.trace.any (recordHit notificationWiring 2 (dispatch "KH-1" (some "evt-1"))) =
        true ∧
      Passes (writeIsReal notificationWiring) p.snapshot.trace :=
  ⟨_, reachable_run notificationWiring.registry notificationWorld retriedDispatch
    (by decide +kernel), by decide +kernel,
    write_is_real notificationWiring notificationWorld (fun _ => rfl) _
      (reachable_run notificationWiring.registry notificationWorld retriedDispatch
        (by decide +kernel))
      (by decide +kernel)⟩

end SelfService
