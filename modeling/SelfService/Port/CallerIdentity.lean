/-
For whom a reply was fetched.

The client signs the user of the request context into the token that it sends
downstream.  The keys of the cache say nothing about the user, so a reply is the
caller's own when the keys of the run keep the users apart.
-/

import SelfService.Port.CacheProvenance

namespace SelfService

open Data EventLoop PortRegistry

/-- The user that the client signs into the token. -/
def Invocation.userId (i : Invocation) : Option String := i.context.bind RequestContext.userId

/-- An adapter answered the data to a call made in the name of the user. -/
def ProducedFor (wiring : Wiring) (user : Option String) (data : JsValue) (before : RegistryTrace) :
    Prop :=
  ∃ j adapter fetched tid, j.userId = user ∧ Saw before tid (supplied adapter j fetched) ∧
    (data = fetched ∨ data = wiring.backend.stored fetched)

/-- Every read that is not degraded is answered with what was produced for its caller. -/
def OwnAnswers (wiring : Wiring) (trace : RegistryTrace) : Prop :=
  ∀ before after tid time i reply, trace =
      before ++ ⟨tid, time, .finished (.inl (.execute i)) (.ok (.port reply))⟩ :: after →
    isMutationMethod i.method = false → reply.degraded = false →
      ProducedFor wiring i.userId reply.data before

/-- Calls of different users differ in the keys under which a read may find their data. -/
structure UsersApart (wiring : Wiring) (ports : Ports) (trace : RegistryTrace) : Prop where
  reads : ∀ tid other i j, Saw trace tid (.started (.inl (.execute i))) →
    Saw trace other (.started (.inl (.execute j))) → Cacheable ports i → Cacheable ports j →
    buildCacheKey wiring.remote i.portName i.method i.params =
      buildCacheKey wiring.remote j.portName j.method j.params → i.userId = j.userId
  records : ∀ tid other i j rawKey otherKey, Saw trace tid (.started (.inl (.execute i))) →
    Saw trace other (.started (.inl (.execute j))) → isMutationMethod i.method = false →
    i.idempotencyKey = some rawKey → j.idempotencyKey = some otherKey →
    InboundIdempotencyService.buildCacheKey wiring.remote rawKey =
      InboundIdempotencyService.buildCacheKey wiring.remote otherKey → i.userId = j.userId

section Runs

variable {wiring : Wiring} {world : World registryOnly}
  {p : Pool (portSignature registryOnly) Resolution}

theorem saw_of_before {trace before after : RegistryTrace} {entry : PortTraceEntry registryOnly}
    {tid : Nat} {event : PortEvent registryOnly} (split : trace = before ++ entry :: after)
    (seen : Saw before tid event) : Saw trace tid event := by
  obtain ⟨time, member⟩ := seen
  exact ⟨time, by rw [split]; exact List.mem_append_left _ member⟩

/-- What a read finds under its key was fetched for its own user. -/
theorem produced_read (empty : world.cache = .empty) (reached : Reachable wiring.registry world p)
    (apart : UsersApart wiring world.ports p.snapshot.trace) {before after : RegistryTrace}
    {tid time : Nat} {i : Invocation} {cached : JsValue}
    (split : p.snapshot.trace = before ++ ⟨tid, time, .answered (.inl (.cache (.get
      (buildCacheKey wiring.remote i.portName i.method i.params)))) (Reply.ok cached)⟩ :: after)
    (began : p.snapshot.Saw tid (.started (.inl (.execute i))))
    (caches : Cacheable world.ports i) (present : cached.isNullish = false) :
    ProducedFor wiring i.userId (cached.field "data") before := by
  obtain ⟨early, late, writer, written, value, ttl, answer, rfl, rfl, -⟩ :=
    written_of_lookup empty reached split present
  rw [List.append_assoc, List.cons_append] at split
  obtain ⟨j, begins, records | ⟨key, entry, adapter, data, cachedAt, registered, cacheable, -, own,
    rfl⟩⟩ := writes_lawfully reached split
  · obtain ⟨rawKey, -, -, recordKey, -⟩ := records
    exact absurd recordKey.symm (recordKey_ne _ _ _)
  · have same := apart.reads tid writer i j began (saw_of_before split begins) caches
      ⟨entry, registered, cacheable⟩ key
    exact ⟨j, adapter, data, writer, same.symm, saw_of_before rfl (saw_of_fetched own),
      Or.inr (stored_data _ _ _)⟩

/-- What a read finds under its idempotency key was fetched for its own user. -/
theorem produced_record (empty : world.cache = .empty)
    (reached : Reachable wiring.registry world p)
    (apart : UsersApart wiring world.ports p.snapshot.trace) {before after : RegistryTrace}
    {tid time : Nat} {i : Invocation} {rawKey : String} {recorded : JsValue}
    (split : p.snapshot.trace = before ++ ⟨tid, time, .answered (.inl (.cache (.get
      (InboundIdempotencyService.buildCacheKey wiring.remote rawKey)))) (Reply.ok recorded)⟩ :: after)
    (began : p.snapshot.Saw tid (.started (.inl (.execute i))))
    (readOnly : isMutationMethod i.method = false) (keyed : i.idempotencyKey = some rawKey)
    (present : recorded.isNullish = false) :
    ProducedFor wiring i.userId recorded before := by
  obtain ⟨early, late, writer, written, value, ttl, answer, rfl, rfl, -⟩ :=
    written_of_lookup empty reached split present
  rw [List.append_assoc, List.cons_append] at split
  obtain ⟨j, begins, ⟨otherKey, adapter, otherKeyed, key, own⟩ | fills⟩ :=
    writes_lawfully reached split
  · have same := apart.records tid writer i j rawKey otherKey began (saw_of_before split begins)
      readOnly keyed otherKeyed key
    exact ⟨j, adapter, value, writer, same.symm, saw_of_before rfl (saw_of_fetched own),
      Or.inr rfl⟩
  · exact absurd fills.1 (recordKey_ne _ _ _)

/-- While the keys keep the users apart, every read is answered with its caller's own data. -/
theorem own_answers (wiring : Wiring) (world : World registryOnly) (empty : world.cache = .empty)
    {p : Pool (portSignature registryOnly) Resolution} (reached : Reachable wiring.registry world p)
    (apart : UsersApart wiring world.ports p.snapshot.trace) :
    OwnAnswers wiring p.snapshot.trace := by
  intro before after tid time i reply split readOnly healthy
  have began := reached.finished_began split
  have begun := saw_of_before split began
  -- the lookup stands before the end of the call
  have looked {key : String} {cached : JsValue} (seen : Saw before tid
      (.answered (.inl (.cache (.get key))) (Reply.ok cached))) :
      ∃ first rest moment later, before = first ++ ⟨tid, moment, .answered (.inl (.cache (.get key)))
          (Reply.ok cached)⟩ :: rest ∧ p.snapshot.trace = first ++ ⟨tid, moment,
            .answered (.inl (.cache (.get key))) (Reply.ok cached)⟩ :: later := by
    obtain ⟨moment, member⟩ := seen
    obtain ⟨first, rest, rfl⟩ := List.append_of_mem member
    exact ⟨first, rest, moment, _, rfl, by rw [split, List.append_assoc, List.cons_append]⟩
  have earlier {first rest : RegistryTrace} {entry : PortTraceEntry registryOnly} {data : JsValue}
      (same : before = first ++ entry :: rest) (made : ProducedFor wiring i.userId data first) :
      ProducedFor wiring i.userId data before := by
    obtain ⟨j, adapter, fetched, other, user, seen, equal⟩ := made
    exact ⟨j, adapter, fetched, other, user, saw_of_before same seen, equal⟩
  cases healthy_origin reached split healthy with
  | read cacheable cached present same found =>
      obtain ⟨first, rest, moment, later, front, whole⟩ := looked (saw_of_fetched found)
      rw [same]
      exact earlier front (produced_read empty reached apart whole begun cacheable present)
  | record rawKey keyed present found replayed =>
      obtain ⟨first, rest, moment, later, front, whole⟩ := looked (saw_of_fetched found)
      exact earlier front
        (produced_record empty reached apart whole begun readOnly keyed present)
  | adapter kind found live =>
      exact ⟨i, kind, reply.data, tid, rfl, saw_of_fetched found, Or.inl rfl⟩

end Runs

/-! ### Another user's onboarding -/

def statusRead (user : String) : Invocation where
  context := some ⟨"c-" ++ user, some user, none, none⟩
  portName := "onboarding"
  method := "get-onboarding-status"
  params := .obj [("requestId", .str "OB-1")]
  idempotencyKey := none

/-- The hash is the one of the JSON text of the read. -/
def statusWiring : Wiring :=
  .configured true (fun _ => ⟨"e3b0c44298fc1c14", isHex_empty⟩)
    fun _ => ⟨"c717aef116b17dea", by decide +kernel⟩

/-- The port is live. -/
def statusWorld : World registryOnly :=
  register "onboarding" (bareWorld 1700000000000 .empty
    (apiEndpoints.set "onboarding" { readEndpoint .dynamic 900 with adapter := .live }) ())

def statusKey : String :=
  buildCacheKey statusWiring.remote "onboarding" "get-onboarding-status"
    (.obj [("requestId", .str "OB-1")])

def statusOf (user : String) : JsValue :=
  .obj [("requestId", .str "OB-1"), ("applicant", .str user), ("status", .str "pending")]

def cachedStatus (user : String) : JsValue :=
  .obj [("data", statusOf user), ("cachedAt", .str "2023-11-14T22:13:20.000Z")]

/-- A user reads the status, which is cached. -/
def firstStatus (user : String) : List RegistryAction :=
  let i := statusRead user
  [.call (.inl (.execute i)), .resume 0,
    .answer 0 (.inl (.cache (.get statusKey))) (Reply.ok .null), .resume 0,
    .answer 0 (.inl (.adapter ⟨"onboarding", .live⟩ i.context i.method i.params))
      (.ok (statusOf user)), .resume 0,
    .answer 0 (.inl (.cache (.set statusKey (cachedStatus user) (some 900)))) (Reply.ok ()),
    .resume 0]

/-- Then `user` reads what was cached for `owner`. -/
def secondStatus (owner user : String) : List RegistryAction :=
  [.call (.inl (.execute (statusRead user))), .resume 1,
    .answer 1 (.inl (.cache (.get statusKey))) (Reply.ok (cachedStatus owner)), .resume 1]

/-- All adapter calls are made in the name of the user. -/
def CallsOnlyFor (user : Option String) (trace : RegistryTrace) : Bool :=
  trace.all fun entry => match entry.event with
    | .answered (.inl (.adapter _ context _ _)) _ =>
        decide (context.bind RequestContext.userId = user)
    | _ => true

/-- A healthy read of somebody else has ended. -/
def endsForOther (user : Option String) (entry : PortTraceEntry registryOnly) : Bool :=
  match entry.event with
  | .finished (.inl (.execute i)) (.ok (.port reply)) =>
      decide (i.userId ≠ user) && !isMutationMethod i.method && !reply.degraded
  | _ => false

theorem not_ownAnswers {wiring : Wiring} {trace : RegistryTrace} {user : Option String}
    (only : CallsOnlyFor user trace = true) (ended : trace.any (endsForOther user) = true) :
    ¬ OwnAnswers wiring trace := by
  intro own
  obtain ⟨⟨tid, time, event⟩, member, ends⟩ := List.any_eq_true.mp ended
  obtain ⟨before, after, split⟩ := List.append_of_mem member
  unfold endsForOther at ends
  split at ends
  · rename_i i reply same
    cases same
    simp only [Bool.and_eq_true, decide_eq_true_eq, Bool.not_eq_true'] at ends
    obtain ⟨j, adapter, fetched, other, sameUser, ⟨moment, seen⟩, -⟩ :=
      own before after tid time i reply split ends.1.2 ends.2
    have inTrace : ⟨other, moment, supplied adapter j fetched⟩ ∈ trace := by
      rw [split]
      exact List.mem_append_left _ seen
    have called : j.userId = user := of_decide_eq_true (List.all_eq_true.mp only _ inTrace)
    exact ends.1.1 (sameUser.symm.trans called)
  · cases ends

/-- The second user is served the status that was fetched for the first one. -/
theorem own_answers_fail :
    ∃ p, Reachable statusWiring.registry statusWorld p ∧
      ¬ OwnAnswers statusWiring p.snapshot.trace :=
  ⟨_, reachable_run statusWiring.registry statusWorld
      (firstStatus "USR-A" ++ secondStatus "USR-A" "USR-B") (by decide +kernel),
    not_ownAnswers (by decide +kernel : CallsOnlyFor (some "USR-A") _ = true) (by decide +kernel)⟩

/-- All calls of the run are made in the name of the user. -/
def StartsOnlyFor (user : Option String) (trace : RegistryTrace) : Bool :=
  trace.all fun entry => match entry.event with
    | .started (.inl (.execute i)) => decide (i.userId = user)
    | _ => true

theorem UsersApart.of_one {wiring : Wiring} {ports : Ports} {trace : RegistryTrace}
    {user : Option String} (only : StartsOnlyFor user trace = true) :
    UsersApart wiring ports trace := by
  have same {tid : Nat} {i : Invocation} (began : Saw trace tid (.started (.inl (.execute i)))) :
      i.userId = user := by
    obtain ⟨time, member⟩ := began
    exact of_decide_eq_true (List.all_eq_true.mp only _ member)
  constructor
  · intro tid other i j began begins _ _ _
    rw [same began, same begins]
  · intro tid other i j rawKey otherKey began begins _ _ _ _
    rw [same began, same begins]

theorem own_answers_one_user :
    ∃ p, Reachable statusWiring.registry statusWorld p ∧
      p.snapshot.trace.any readFromCache = true ∧ OwnAnswers statusWiring p.snapshot.trace :=
  ⟨_, reachable_run statusWiring.registry statusWorld
      (firstStatus "USR-A" ++ secondStatus "USR-A" "USR-A") (by decide +kernel),
    by decide +kernel,
    own_answers statusWiring statusWorld rfl
      (reachable_run statusWiring.registry statusWorld
        (firstStatus "USR-A" ++ secondStatus "USR-A" "USR-A") (by decide +kernel))
      (UsersApart.of_one (by decide +kernel : StartsOnlyFor (some "USR-A") _ = true))⟩

end SelfService
