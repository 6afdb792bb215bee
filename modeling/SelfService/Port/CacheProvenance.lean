/-
Where cached reads come from.

Only an `execute` of a cacheable read writes under the key of a read, and it
writes what its own adapter answered, for the time to live of its port.  So what
a lookup finds was fetched for the same port, method and parameters.
-/

import SelfService.Port.BreakerGate
import SelfService.Port.CacheHistory
import SelfService.Port.DegradedAnswers
import SelfService.Port.PortUpdates
import SelfService.Port.Provenance

namespace SelfService

open Data EventLoop PortRegistry

abbrev Ports := OrderedMap String PortEntry

/-- Reads of this kind are cached. -/
def Cacheable (ports : Ports) (i : Invocation) : Prop :=
  ∃ entry, ports.get? i.portName = some entry ∧ shouldCache entry i.method = true

/-- What successful adapter calls and lookups have answered. -/
abbrev Fetched := List (Event (portSignature registryOnly) Resolution)

def Fetched.observe (fetched : Fetched) : Event (portSignature registryOnly) Resolution → Fetched
  | .answered (.inl (.adapter target context method params)) (.ok data) =>
      fetched ++ [.answered (.inl (.adapter target context method params)) (.ok data)]
  | .answered (.inl (.cache (.get key))) answer =>
      fetched ++ [.answered (.inl (.cache (.get key))) answer]
  | _ => fetched

/-- The adapter was called for the invocation and answered with the data. -/
def supplied (adapter : AdapterKind) (i : Invocation) (data : JsValue) :
    Event (portSignature registryOnly) Resolution :=
  .answered (.inl (.adapter ⟨i.portName, adapter⟩ i.context i.method i.params)) (.ok data)

/-- A write of what the call fetched, under the key of its idempotency. -/
def FilesRecord (wiring : Wiring) (i : Invocation) (fetched : Fetched) (key : String)
    (value : JsValue) : Prop :=
  ∃ rawKey adapter, i.idempotencyKey = some rawKey ∧
    key = InboundIdempotencyService.buildCacheKey wiring.remote rawKey ∧
    supplied adapter i value ∈ fetched

/-- A write of what the call fetched, under the key of the read. -/
def Fills (wiring : Wiring) (ports : Ports) (i : Invocation) (fetched : Fetched) (key : String)
    (value : JsValue) (ttl : Option Nat) : Prop :=
  key = buildCacheKey wiring.remote i.portName i.method i.params ∧
    ∃ entry adapter data cachedAt, ports.get? i.portName = some entry ∧
      shouldCache entry i.method = true ∧ ttl = some entry.config.cacheTtl ∧
      supplied adapter i data ∈ fetched ∧ value = .obj [("data", data), ("cachedAt", cachedAt)]

/-- What a call may write to the cache. -/
def writesLaw (wiring : Wiring) (ports : Ports) (call : (portSignature registryOnly).Call)
    (fetched : Fetched) : Event (portSignature registryOnly) Resolution → Prop
  | .answered (.inl (.cache (.set key value ttl))) _ => ∃ i, call = .inl (.execute i) ∧
      (FilesRecord wiring i fetched key value ∨ Fills wiring ports i fetched key value ttl)
  | .answered (.inl (.cache (.setIfNotExist _ _ _))) _ => False
  | _ => True

/-- The result was read from the cache of reads. -/
def FromReadCache (reply : PortResult) : Prop :=
  reply.fromCache = true ∧ reply.degraded = false ∧ reply.fromIdempotency = false

/-- Where the data of a reply is from that is not degraded. -/
inductive Origin (wiring : Wiring) (ports : Ports) (i : Invocation) (fetched : Fetched)
    (reply : PortResult) : Prop
  | read (cacheable : Cacheable ports i) (cached : JsValue) (present : cached.isNullish = false)
      (same : reply.data = cached.field "data")
      (found : .answered (.inl (.cache (.get
        (buildCacheKey wiring.remote i.portName i.method i.params)))) (Reply.ok cached) ∈ fetched)
  | record (rawKey : String) (keyed : i.idempotencyKey = some rawKey)
      (present : reply.data.isNullish = false)
      (found : .answered (.inl (.cache (.get
        (InboundIdempotencyService.buildCacheKey wiring.remote rawKey)))) (Reply.ok reply.data) ∈
          fetched)
      (replayed : reply.fromIdempotency = true)
  | adapter (kind : AdapterKind) (found : supplied kind i reply.data ∈ fetched)
      (live : reply.fromCache = false)

def Served (wiring : Wiring) (ports : Ports) (i : Invocation) (result : Except Exn PortResult)
    (fetched : Fetched) : Prop :=
  ∀ reply, result = .ok reply → reply.degraded = false → Origin wiring ports i fetched reply

def servedLaw (wiring : Wiring) (ports : Ports) (call : (portSignature registryOnly).Call)
    (result : Except Exn Resolution) (fetched : Fetched) : Prop :=
  ∀ i reply, call = .inl (.execute i) → result = .ok (.port reply) → reply.degraded = false →
    Origin wiring ports i fetched reply

def cacheWatch (wiring : Wiring) (ports : Ports) :
    Watch (portSignature registryOnly) Resolution Fetched :=
  ⟨fun _ => [], writesLaw wiring ports, servedLaw wiring ports⟩

section Calls

variable {wiring : Wiring} {ports : Ports} {i : Invocation} {fetched : Fetched}

abbrev Caches {α : Type} (wiring : Wiring) (ports : Ports) (i : Invocation)
    (post : Except Exn α → Fetched → Prop) (task : PortTask registryOnly α) (fetched : Fetched) :
    Prop :=
  Watched (fun world : World registryOnly => world.ports = ports) Fetched.observe
    (writesLaw wiring ports (.inl (.execute i))) post task fetched

/-- Nothing is fetched by the task, which does not fail. -/
abbrev Files (wiring : Wiring) (ports : Ports) (i : Invocation) (task : PortTask registryOnly Unit)
    (fetched : Fetched) : Prop :=
  Caches wiring ports i (fun result last => result = .ok () ∧ last = fetched) task fetched

theorem Files.andThen {first second : PortTask registryOnly Unit}
    (files : Files wiring ports i first fetched) (next : Files wiring ports i second fetched) :
    Files wiring ports i (first >>= fun _ => second) fetched := by
  apply Watched.andThen files
  · rintro error last ⟨wrong, -⟩
    cases wrong
  · rintro value last ⟨-, rfl⟩
    exact next

theorem files_set {key : String} {value : JsValue} {ttl : Option Nat}
    (lawful : FilesRecord wiring i fetched key value ∨ Fills wiring ports i fetched key value ttl) :
    Files wiring ports i (do
      let _ ← (CacheService.set key value ttl : PortTask registryOnly Unit).attempt
      return ()) fetched := by
  intro (answer : (CacheCommand.set key value ttl).Answer)
  refine ⟨⟨i, rfl, lawful⟩, ?_⟩
  cases answer with
  | ok value => exact ⟨rfl, rfl⟩
  | failed applied reason => exact ⟨rfl, rfl⟩

variable {entry : PortEntry} {adapter source : AdapterKind} {startTime : Nat}

theorem files_postProcess (registered : ports.get? i.portName = some entry) {data : JsValue}
    (own : supplied source i data ∈ fetched) :
    Files wiring ports i (postProcess wiring.remote i entry data) fetched := by
  have invalidated : Files wiring ports i (invalidatePort wiring.remote i) fetched := by
    unfold invalidatePort
    split
    · exact fun _ _ => ⟨rfl, rfl⟩
    · exact ⟨rfl, rfl⟩
  have written : Files wiring ports i (writeCache wiring.remote i entry data) fetched := by
    unfold writeCache
    split
    · rename_i cacheable
      intro world good
      exact files_set (Or.inr ⟨rfl, entry, source, data, _, registered, cacheable, rfl, own, rfl⟩)
    · exact ⟨rfl, rfl⟩
  have filled : Files wiring ports i (fillSlot i data) fetched :=
    fun _ _ => ⟨trivial, rfl, rfl⟩
  have recorded : Files wiring ports i (recordResult wiring.remote i data) fetched := by
    unfold recordResult
    split
    · rename_i rawKey keyed
      split
      · exact files_set (Or.inl ⟨rawKey, source, keyed, rfl, own⟩)
      · exact ⟨rfl, rfl⟩
    · exact ⟨rfl, rfl⟩
  have stored := written.andThen (filled.andThen recorded)
  unfold postProcess
  split
  · exact invalidated.andThen stored
  · exact stored

theorem caches_enqueueAndReject :
    Caches wiring ports i (Served wiring ports i) (enqueueAndReject wiring.remote i) fetched := by
  unfold enqueueAndReject QueueService.enqueue
  split
  · intro (reply : Reply (Option String))
    refine ⟨trivial, ?_⟩
    cases reply with
    | ok jobId => exact fun _ => nofun
    | failed applied reason => exact fun _ => nofun
  · exact fun _ => nofun

theorem caches_executeWithQueue (cause : Option Exn) :
    Caches wiring ports i (Served wiring ports i)
      (executeWithQueue wiring.remote i entry adapter startTime cause) fetched := by
  have degraded (result : PortResult) (ill : result.degraded = true) (fetched : Fetched) :
      Served wiring ports i (.ok result) fetched := by
    rintro reply same healthy
    cases same
    cases ill.symm.trans healthy
  unfold executeWithQueue executeFallback
  split
  · intro world good
    dsimp only
    split
    · exact ⟨trivial, degraded _ rfl _⟩
    · exact fun _ => nofun
  · split
    · intro world good
      dsimp only
      split
      · exact caches_enqueueAndReject
      · exact ⟨trivial, degraded _ rfl _⟩
    · exact caches_enqueueAndReject

theorem caches_executeThroughBreaker (registered : ports.get? i.portName = some entry) :
    Caches wiring ports i (Served wiring ports i)
      (executeThroughBreaker wiring.remote i entry adapter startTime) fetched := by
  unfold executeThroughBreaker
  intro world good
  change Watched _ _ _ _ ((if rejectsNow world i.portName = true then _ else _ :
    PortTask registryOnly PortResult)) _
  split
  · exact caches_executeWithQueue none
  · intro now good (outcome : Except Exn JsValue)
    refine ⟨trivial, ?_⟩
    cases outcome with
    | ok data =>
        refine ⟨trivial, ?_⟩
        intro later good final good
        change Watched _ _ _ _ (postProcess wiring.remote i entry data >>= _) _
        have own : supplied adapter i data ∈ fetched ++ [supplied adapter i data] := by simp
        apply Watched.andThen (files_postProcess registered own)
        · rintro error last ⟨wrong, -⟩
          cases wrong
        · rintro value last ⟨-, rfl⟩ reply same -
          cases same
          exact .adapter adapter own rfl
    | error error => exact ⟨trivial, fun later good => caches_executeWithQueue (some error)⟩

theorem caches_executeThroughCache (registered : ports.get? i.portName = some entry) :
    Caches wiring ports i (Served wiring ports i)
      (executeThroughCache wiring.remote i entry adapter startTime) fetched := by
  unfold executeThroughCache
  split
  · rename_i cacheable
    intro (reply : Reply JsValue)
    refine ⟨trivial, ?_⟩
    intro world good
    change Watched _ _ _ _ ((if (reply.getD .null).isNullish = true then _ else _ :
      PortTask registryOnly PortResult)) _
    split
    · exact caches_executeThroughBreaker registered
    · rename_i present
      rintro result same -
      cases same
      cases reply with
      | ok cached =>
          exact .read ⟨entry, registered, cacheable⟩ cached (eq_false_of_ne_true present) rfl
            (List.mem_append_right fetched (List.mem_singleton.mpr rfl))
      | failed applied reason => exact absurd rfl present
  · exact caches_executeThroughBreaker registered

theorem caches_executeRegistered (registered : ports.get? i.portName = some entry) :
    Caches wiring ports i (Served wiring ports i)
      (executeRegistered wiring.remote i entry adapter startTime) fetched := by
  unfold executeRegistered
  split
  · rename_i rawKey keyed
    split
    · intro (reply : Reply JsValue)
      refine ⟨trivial, ?_⟩
      intro world good
      change Watched _ _ _ _ ((if (reply.getD .null).isNullish = true then _ else _ :
        PortTask registryOnly PortResult)) _
      split
      · exact caches_executeThroughCache registered
      · rename_i present
        rintro result same -
        cases same
        cases reply with
        | ok recorded =>
            exact .record rawKey keyed (eq_false_of_ne_true present)
              (List.mem_append_right fetched (List.mem_singleton.mpr rfl)) rfl
        | failed applied reason => exact absurd rfl present
    · exact caches_executeThroughCache registered
  · exact caches_executeThroughCache registered

theorem caches_execute :
    Caches wiring ports i (Served wiring ports i) (execute wiring.remote i) fetched := by
  unfold execute
  refine ⟨trivial, ?_⟩
  rintro world rfl
  simp only [Task.done_bind]
  split
  · intro reply wrong
    cases wrong
  · rename_i entry registered
    exact caches_executeRegistered registered

/-- Every call writes to the cache as it may. -/
theorem watched_calls (call : (portSignature registryOnly).Call) :
    Watched (fun world : World registryOnly => world.ports = ports) Fetched.observe
      ((cacheWatch wiring ports).law call) ((cacheWatch wiring ports).post call)
      (wiring.registry.body call) ((cacheWatch wiring ports).initial call) := by
  rcases call with (i | payload | cause | cause) | call
  · change Watched _ _ _ _
      (execute wiring.remote i >>= fun result => .done (Resolution.port result)) _
    rw [watched_bind]
    apply caches_execute.mono
    intro result last served
    cases result with
    | ok reply =>
        intro j other same equal healthy
        cases same
        cases equal
        exact served _ rfl healthy
    | error error => exact fun _ _ _ => nofun
  · have unserved (result : Except Exn Resolution) (last : Fetched) :
        servedLaw wiring ports (.inl (.replay payload)) result last := by
      intro i reply same
      cases same
    intro world good
    change Watched _ _ _ _
      ((if payload ∈ world.jobs then _ else _ : PortTask registryOnly Resolution)) _
    split
    · intro world good
      simp only [Task.done_bind]
      split
      · exact unserved _ _
      · intro (outcome : Except Exn JsValue)
        refine ⟨trivial, ?_⟩
        cases outcome with
        | ok data => exact ⟨trivial, fun _ _ => ⟨trivial, unserved _ _⟩⟩
        | error error => exact ⟨trivial, unserved _ _⟩
    · exact unserved _ _
  · have unserved (result : Except Exn Resolution) (last : Fetched) :
        servedLaw wiring ports (.inl (.invalidate cause)) result last := by
      intro i reply same
      cases same
    change Watched _ _ _ _ ((CacheService.deleteByPattern wiring.remote.backend.kind
      (portPattern cause.portName) : PortTask registryOnly Nat).attempt >>= fun _ =>
        .done Resolution.nothing) _
    cases wiring.remote.backend.kind with
    | memory => exact fun _ => ⟨trivial, unserved _ _⟩
    | redis =>
        intro (listed : Reply (List String))
        refine ⟨trivial, ?_⟩
        cases listed with
        | failed applied reason => exact unserved _ _
        | ok fullKeys =>
            cases fullKeys with
            | nil => exact unserved _ _
            | cons first rest =>
                intro (deleted : Reply Unit)
                refine ⟨trivial, ?_⟩
                cases deleted with
                | failed applied reason => exact unserved _ _
                | ok done => exact unserved _ _
  · have unserved (result : Except Exn Resolution) (last : Fetched) :
        servedLaw wiring ports (.inl (.refresh cause)) result last := by
      intro i reply same
      cases same
    change Watched _ _ _ _ ((QueueService.enqueue wiring.remote (replayPayload cause)).attempt >>=
      fun _ => .done Resolution.nothing) _
    unfold QueueService.enqueue
    split
    · intro (reply : Reply (Option String))
      refine ⟨trivial, ?_⟩
      cases reply with
      | ok jobId => exact unserved _ _
      | failed applied reason => exact unserved _ _
    · exact unserved _ _
  · exact call.elim

end Calls

/-! ### Keys -/

theorem split_at_last {symbol : Char} {front other back rest : List Char} (absent : symbol ∉ back)
    (missing : symbol ∉ rest) (same : front ++ symbol :: back = other ++ symbol :: rest) :
    front = other ∧ back = rest := by
  rcases List.append_eq_append_iff.mp same with ⟨middle, grown, left⟩ | ⟨middle, grown, left⟩
  · cases middle with
    | nil =>
        rw [List.append_nil] at grown
        exact ⟨grown.symm, (List.cons.inj left).2⟩
    | cons head middle =>
        have later := (List.cons.inj left).2
        exact absurd (by rw [later]; simp) absent
  · cases middle with
    | nil =>
        rw [List.append_nil] at grown
        exact ⟨grown, (List.cons.inj left).2.symm⟩
    | cons head middle =>
        have later := (List.cons.inj left).2
        exact absurd (by rw [later]; simp) missing

theorem colon_not_hex (hash : ShortHash) : ':' ∉ hash.text.toList := by
  intro member
  have digit := hash.hex ':' member
  revert digit
  decide

/-- The key of a read tells the port and the hash. -/
theorem cacheKeyOf_injective {portName other : String} {hash twin : ShortHash}
    (same : cacheKeyOf portName hash = cacheKeyOf other twin) : portName = other ∧ hash = twin := by
  have lists : ("cache:v2:port:" ++ portName ++ ":" ++ hash.text).toList =
      ("cache:v2:port:" ++ other ++ ":" ++ twin.text).toList := congrArg String.toList same
  simp only [String.toList_append, List.append_assoc, List.append_right_inj] at lists
  have colon : ":".toList = [':'] := rfl
  rw [colon, List.singleton_append, List.singleton_append] at lists
  obtain ⟨names, texts⟩ := split_at_last (colon_not_hex hash) (colon_not_hex twin) lists
  refine ⟨String.ext names, ?_⟩
  obtain ⟨text, hex⟩ := hash
  obtain ⟨text', hex'⟩ := twin
  have equal : text = text' := String.ext texts
  subst equal
  rfl

/-- The text that the hash of a read is taken of. -/
def keyedText (i : Invocation) : JsValue :=
  (JsValue.obj [("method", .str i.method), ("params", i.params)]).roundTrip

/-- The hash keeps the reads of the run apart. -/
def CollisionFree (wiring : Wiring) (trace : RegistryTrace) : Prop :=
  ∀ i j tid other, Saw trace tid (.started (.inl (.execute i))) →
    Saw trace other (.started (.inl (.execute j))) →
    wiring.jsonHash (keyedText i) = wiring.jsonHash (keyedText j) → keyedText i = keyedText j

theorem sameRead_of_text {i j : Invocation} (same : keyedText i = keyedText j) :
    i.method = j.method ∧ i.params.roundTrip = j.params.roundTrip := by
  unfold keyedText at same
  have text (k : Invocation) : (JsValue.obj [("method", .str k.method), ("params", k.params)]).roundTrip =
      .obj (("method", .str k.method) :: JsValue.roundTripFields [("params", k.params)]) := by
    simp [JsValue.roundTrip, JsValue.roundTripFields]
  have field (k : Invocation) : ((JsValue.roundTripFields [("params", k.params)]).lookup "params").getD
      .undefined = k.params.roundTrip := by
    cases k.params <;> simp [JsValue.roundTrip, JsValue.roundTripFields]
  rw [text, text, JsValue.obj.injEq, List.cons.injEq, Prod.mk.injEq, JsValue.str.injEq] at same
  refine ⟨same.1.2, ?_⟩
  rw [← field i, ← field j, same.2]

/-- What is stored with a read is the stored data. -/
theorem stored_data (backend : Backend) (data cachedAt : JsValue) :
    (backend.stored (.obj [("data", data), ("cachedAt", cachedAt)])).field "data" =
      backend.stored data := by
  have later : (JsValue.roundTripFields [("cachedAt", cachedAt)]).lookup "data" = none := by
    cases cachedAt <;> simp [JsValue.roundTripFields]
  unfold Backend.stored
  cases backend.kind with
  | memory => rfl
  | redis =>
      cases data <;> simp [JsValue.roundTrip, JsValue.roundTripFields, later]

/-! ### In every run -/

section Runs

variable {wiring : Wiring} {world : World registryOnly} {p : Pool (portSignature registryOnly) Resolution}

theorem saw_of_fetched {event : Event (portSignature registryOnly) Resolution} {tid : Nat}
    {trace : RegistryTrace} (member : event ∈ observation Fetched.observe [] (ownEntries tid trace)) :
    Saw trace tid event := by
  have found (entries : RegistryTrace) (member : event ∈ observation Fetched.observe [] entries) :
      ∃ entry ∈ entries, entry.event = event := by
    induction entries using List.reverseRecOn with
    | nil => cases member
    | append_singleton entries entry ih =>
        rw [observation_snoc] at member
        have earlier (old : event ∈ observation Fetched.observe [] entries) :
            ∃ other ∈ entries ++ [entry], other.event = event := by
          obtain ⟨other, there, same⟩ := ih old
          exact ⟨other, List.mem_append_left _ there, same⟩
        unfold Fetched.observe at member
        split at member
        · rename_i same
          rcases List.mem_append.mp member with old | new
          · exact earlier old
          · exact ⟨entry, by simp, same.trans (List.mem_singleton.mp new).symm⟩
        · rename_i same
          rcases List.mem_append.mp member with old | new
          · exact earlier old
          · exact ⟨entry, by simp, same.trans (List.mem_singleton.mp new).symm⟩
        · exact earlier member
  obtain ⟨⟨other, time, event⟩, there, same⟩ := found _ member
  cases same
  obtain ⟨inTrace, own⟩ := mem_ownEntries.mp there
  have own : other = tid := own
  subst own
  exact ⟨time, inTrace⟩

/-- Whoever writes to the cache runs an `execute`, and writes what it may. -/
theorem writes_lawfully (reached : Reachable wiring.registry world p) {before after : RegistryTrace}
    {tid time : Nat} {key : String} {value : JsValue} {ttl : Option Nat}
    {answer : (CacheCommand.set key value ttl).Answer}
    (split : p.snapshot.trace =
      before ++ ⟨tid, time, .answered (.inl (.cache (.set key value ttl))) answer⟩ :: after) :
    ∃ i, Saw before tid (.started (.inl (.execute i))) ∧
      (FilesRecord wiring i (observation Fetched.observe [] (ownEntries tid before)) key value ∨
      Fills wiring world.ports i (observation Fetched.observe [] (ownEntries tid before)) key value
        ttl) := by
  rcases reached.started_before split with ⟨call, started⟩ | ⟨call, moment, member⟩
  · cases started
  · have began : Saw before tid (.started call) := ⟨moment, member⟩
    obtain ⟨i, rfl, lawful⟩ := (kept_ports world.ports).fits rfl reached
      (cacheWatch wiring world.ports) (fun _ _ => rfl) (fun call => watched_calls call) split began
    exact ⟨i, began, lawful⟩

theorem registry_chronicle (reached : Reachable wiring.registry world p) :
    Chronicle wiring.remote (fun _ => False) world.cache p.snapshot := by
  have asks (call : registryOnly.Call) :
      (noService.body call).Asks (fun _ => False) fun _ : PortMark ⊕ registryOnly.Mark => False :=
    call.elim
  exact chronicle_reachable rfl asks reached

theorem registry_clear (reached : Reachable wiring.registry world p) : Clear p.snapshot.trace := by
  have asks (call : registryOnly.Call) :
      (noService.body call).Asks (fun _ => False) fun _ : PortMark ⊕ registryOnly.Mark => False :=
    call.elim
  exact clear_reachable rfl asks (fun _ _ _ wrong => wrong) reached

theorem never_claims (reached : Reachable wiring.registry world p) {before after : RegistryTrace}
    {tid time : Nat} {key : String} {value : JsValue} {ttl : Option Nat}
    {answer : (CacheCommand.setIfNotExist key value ttl).Answer} (split : p.snapshot.trace =
      before ++ ⟨tid, time, .answered (.inl (.cache (.setIfNotExist key value ttl))) answer⟩ :: after) :
    False := by
  rcases reached.started_before split with ⟨call, started⟩ | ⟨call, moment, member⟩
  · cases started
  · exact (kept_ports world.ports).fits rfl reached (cacheWatch wiring world.ports)
      (fun _ _ => rfl) (fun call => watched_calls call) split ⟨moment, member⟩

/-- What a lookup finds was written by a call of the run, is not too old, and was left alone
since. -/
theorem written_of_lookup (empty : world.cache = .empty)
    (reached : Reachable wiring.registry world p) {before after : RegistryTrace} {tid time : Nat}
    {key : String} {cached : JsValue} (split : p.snapshot.trace =
      before ++ ⟨tid, time, .answered (.inl (.cache (.get key))) (Reply.ok cached)⟩ :: after)
    (present : cached.isNullish = false) :
    ∃ (early late : RegistryTrace) (writer written : Nat) (value : JsValue) (ttl : Option Nat)
      (answer : (CacheCommand.set key value ttl).Answer),
      before = early ++ ⟨writer, written, .answered (.inl (.cache (.set key value ttl))) answer⟩ ::
        late ∧
      cached = wiring.backend.stored value ∧
      (wiring.backend.entryOf written value ttl).expired time = false ∧
      ∀ entry ∈ late,
        touchOf wiring.remote (getFullKey wiring.backend.options key) entry = none := by
  have clear := (registry_clear reached).earlier ⟨_, split.symm⟩
  have answered := (registry_chronicle reached).registers.lookups before _ after split
    (clear.unblurred _)
  have found : cached ≠ .null := by
    rintro rfl
    cases present
  have answered : cached = .null ∨ cached = recalled wiring.remote world.cache key time before :=
    answered
  obtain ⟨left, there, alive, same⟩ := held_of_recalled (answered.resolve_left found).symm found
  unfold held at there
  cases last : latest (touchOf wiring.remote (getFullKey wiring.backend.options key)) before with
  | none =>
      rw [show latest (touchOf wiring.remote (getFullKey wiring.remote.backend.options key)) before =
        none from last, Option.getD_none, empty] at there
      cases there
  | some touch =>
      rw [show latest (touchOf wiring.remote (getFullKey wiring.remote.backend.options key)) before =
        some touch from last, Option.getD_some] at there
      subst there
      obtain ⟨early, ⟨writer, written, event⟩, late, rfl, touched, silent⟩ := split_of_latest last
      unfold touchOf at touched
      split at touched
      · rename_i command answer equal
        cases equal
        rw [List.append_assoc, List.cons_append] at split
        obtain ⟨key, value, ttl, wrote, sameKey, rfl⟩ := wrote_of_touch touched
        cases getFullKey_injective _ sameKey
        cases wrote with
        | claimed => exact (never_claims reached split).elim
        | unclear => cases touched
        | set _ _ _ answer applied =>
            exact ⟨early, late, writer, written, value, ttl, answer, rfl, same.symm, alive, silent⟩
      · cases touched

/-- An adapter call for the same read was successful, and its data was written to the cache, no
longer before `time` than the time to live of the port. -/
def FetchedFor (wiring : Wiring) (entry : PortEntry) (i : Invocation) (data : JsValue) (time : Nat)
    (before : RegistryTrace) : Prop :=
  ∃ (j : Invocation) (adapter : AdapterKind) (fetched value : JsValue) (early late : RegistryTrace)
    (tid written : Nat) (answer : (CacheCommand.set
      (buildCacheKey wiring.remote i.portName i.method i.params) value
      (some entry.config.cacheTtl)).Answer),
    j.portName = i.portName ∧ j.method = i.method ∧ j.params.roundTrip = i.params.roundTrip ∧
      data = wiring.backend.stored fetched ∧
      before = early ++ ⟨tid, written, .answered (.inl (.cache (.set
        (buildCacheKey wiring.remote i.portName i.method i.params) value
        (some entry.config.cacheTtl)))) answer⟩ :: late ∧
      Saw early tid (.started (.inl (.execute j))) ∧
      Saw early tid (supplied adapter j fetched) ∧
      time ≤ written + entry.config.cacheTtl * 1000

/-- What a lookup of a read finds was fetched for that read. -/
theorem fetched_of_lookup (empty : world.cache = .empty)
    (reached : Reachable wiring.registry world p) (free : CollisionFree wiring p.snapshot.trace)
    {before after : RegistryTrace} {tid time : Nat} {i : Invocation} {cached : JsValue}
    (split : p.snapshot.trace = before ++ ⟨tid, time, .answered (.inl (.cache (.get
      (buildCacheKey wiring.remote i.portName i.method i.params)))) (Reply.ok cached)⟩ :: after)
    (began : p.snapshot.Saw tid (.started (.inl (.execute i))))
    (present : cached.isNullish = false) :
    ∃ entry, world.ports.get? i.portName = some entry ∧
      FetchedFor wiring entry i (cached.field "data") time before := by
  obtain ⟨early, late, writer, written, value, ttl, answer, rfl, rfl, alive, -⟩ :=
    written_of_lookup empty reached split present
  rw [List.append_assoc, List.cons_append] at split
  obtain ⟨j, begins, records | ⟨key, entry, adapter, data, cachedAt, registered, cacheable, rfl, own,
    rfl⟩⟩ := writes_lawfully reached split
  · obtain ⟨rawKey, -, -, recordKey, -⟩ := records
    exact absurd recordKey.symm (recordKey_ne _ _ _)
  · obtain ⟨samePort, sameHash⟩ := cacheKeyOf_injective key.symm
    have beganEarly : p.snapshot.Saw writer (.started (.inl (.execute j))) := by
      obtain ⟨moment, member⟩ := begins
      exact ⟨moment, by rw [split]; exact List.mem_append_left _ member⟩
    obtain ⟨sameMethod, sameParams⟩ :=
      sameRead_of_text (free j i writer tid beganEarly began sameHash)
    have positive : 0 < entry.config.cacheTtl := by
      simp only [shouldCache, Bool.and_eq_true, decide_eq_true_eq] at cacheable
      exact cacheable.2
    rw [Backend.expired_entryOf positive, decide_eq_false_iff_not, Nat.not_lt] at alive
    rw [samePort] at registered
    exact ⟨entry, registered, j, adapter, data, _, early, late, writer, written, answer, samePort,
      sameMethod, sameParams, stored_data _ _ _, rfl, begins, saw_of_fetched own, alive⟩

/-- The reply was looked up, and what the lookup found was fetched for the same read. -/
def ServedFrom (wiring : Wiring) (ports : Ports) (tid : Nat) (i : Invocation) (reply : PortResult)
    (before : RegistryTrace) : Prop :=
  ∃ entry first rest time cached, ports.get? i.portName = some entry ∧
    shouldCache entry i.method = true ∧
    before = first ++ ⟨tid, time, .answered (.inl (.cache (.get
      (buildCacheKey wiring.remote i.portName i.method i.params)))) (Reply.ok cached)⟩ :: rest ∧
    reply.data = cached.field "data" ∧ FetchedFor wiring entry i reply.data time first

/-- The call neither is answered from the cache of reads nor writes to it. -/
def AvoidsReadCache (tid : Nat) (trace : RegistryTrace) : Prop :=
  (∀ call reply, Saw trace tid (.finished call (.ok (.port reply))) → ¬ FromReadCache reply) ∧
    ∀ key value ttl answer, Saw trace tid (.answered (.inl (.cache (.set key value ttl))) answer) →
      ∀ portName hash, key ≠ cacheKeyOf portName hash

def CachingOff (ports : Ports) (i : Invocation) : Prop :=
  isMutationMethod i.method = true ∨ ∃ entry, ports.get? i.portName = some entry ∧
    (entry.config.cacheTier = .transaction ∨ entry.config.cacheTtl = 0)

theorem CachingOff.not_cacheable {ports : Ports} {i : Invocation} (off : CachingOff ports i) :
    ¬ Cacheable ports i := by
  rintro ⟨entry, registered, caches⟩
  simp only [shouldCache, Bool.and_eq_true, Bool.not_eq_true', decide_eq_true_eq] at caches
  rcases off with mutation | ⟨other, found, uncached⟩
  · rw [mutation] at caches
    cases caches.1.1
  · cases found.symm.trans registered
    rcases uncached with tier | ttl
    · exact caches.1.2 tier
    · omega

theorem healthy_origin (reached : Reachable wiring.registry world p) {before after : RegistryTrace}
    {tid time : Nat} {i : Invocation} {reply : PortResult}
    (split : p.snapshot.trace =
      before ++ ⟨tid, time, .finished (.inl (.execute i)) (.ok (.port reply))⟩ :: after)
    (healthy : reply.degraded = false) :
    Origin wiring world.ports i (observation Fetched.observe [] (ownEntries tid before)) reply :=
  (kept_ports world.ports).fits rfl reached (cacheWatch wiring world.ports) (fun _ _ => rfl)
    (fun call => watched_calls call) split (reached.finished_began split) rfl i reply rfl rfl
    healthy

/-- What comes from the cache of reads was looked up there. -/
theorem served_read (reached : Reachable wiring.registry world p) {before after : RegistryTrace}
    {tid time : Nat} {i : Invocation} {reply : PortResult}
    (split : p.snapshot.trace =
      before ++ ⟨tid, time, .finished (.inl (.execute i)) (.ok (.port reply))⟩ :: after)
    (fromCache : FromReadCache reply) :
    Cacheable world.ports i ∧ ∃ cached : JsValue, cached.isNullish = false ∧
      reply.data = cached.field "data" ∧ Saw before tid (.answered (.inl (.cache (.get
        (buildCacheKey wiring.remote i.portName i.method i.params)))) (Reply.ok cached)) := by
  obtain ⟨hit, healthy, executed⟩ := fromCache
  cases healthy_origin reached split healthy with
  | read cacheable cached present same found =>
      exact ⟨cacheable, cached, present, same, saw_of_fetched found⟩
  | record rawKey keyed present found replayed => cases executed.symm.trans replayed
  | adapter kind found live => cases hit.symm.trans live

/-- What comes from the cache of reads was fetched for the same read, and the rest of the calls
avoid the cache. -/
theorem cache_provenance (wiring : Wiring) (world : World registryOnly)
    (empty : world.cache = .empty) {p : Pool (portSignature registryOnly) Resolution}
    (reached : Reachable wiring.registry world p) (free : CollisionFree wiring p.snapshot.trace) :
    (∀ before after tid time i reply, p.snapshot.trace =
        before ++ ⟨tid, time, .finished (.inl (.execute i)) (.ok (.port reply))⟩ :: after →
      FromReadCache reply → ServedFrom wiring world.ports tid i reply before) ∧
    ∀ tid i, p.snapshot.Saw tid (.started (.inl (.execute i))) → CachingOff world.ports i →
      AvoidsReadCache tid p.snapshot.trace := by
  constructor
  · intro before after tid time i reply split fromCache
    obtain ⟨⟨entry, registered, caches⟩, cached, present, same, found⟩ :=
      served_read reached split fromCache
    obtain ⟨moment, member⟩ := found
    obtain ⟨first, rest, rfl⟩ := List.append_of_mem member
    have began := reached.finished_began split
    have begun : p.snapshot.Saw tid (.started (.inl (.execute i))) := by
      obtain ⟨moment, member⟩ := began
      exact ⟨moment, by rw [split]; exact List.mem_append_left _ member⟩
    rw [List.append_assoc, List.cons_append] at split
    obtain ⟨other, known, fetched⟩ := fetched_of_lookup empty reached free split begun present
    cases registered.symm.trans known
    rw [← same] at fetched
    exact ⟨entry, first, rest, moment, cached, registered, caches, rfl, same, fetched⟩
  · intro tid i began off
    constructor
    · rintro call reply ⟨time, member⟩ fromCache
      obtain ⟨before, after, split⟩ := List.append_of_mem member
      have begun : p.snapshot.Saw tid (.started call) := by
        obtain ⟨moment, member⟩ := reached.finished_began split
        exact ⟨moment, by rw [split]; exact List.mem_append_left _ member⟩
      cases reached.started_unique began begun
      exact off.not_cacheable (served_read reached split fromCache).1
    · rintro key value ttl answer ⟨time, member⟩ portName hash rfl
      obtain ⟨before, after, split⟩ := List.append_of_mem member
      obtain ⟨j, begins, records | ⟨-, entry, adapter, data, cachedAt, registered, caches, -⟩⟩ :=
        writes_lawfully reached split
      · obtain ⟨rawKey, -, -, recordKey, -⟩ := records
        exact recordKey_ne _ _ _ recordKey.symm
      · have begun : p.snapshot.Saw tid (.started (.inl (.execute j))) := by
          obtain ⟨moment, member⟩ := begins
          exact ⟨moment, by rw [split]; exact List.mem_append_left _ member⟩
        cases reached.started_unique began begun
        exact off.not_cacheable ⟨entry, registered, caches⟩

end Runs

/-! ### A read that is cached -/

def ownInvoice : Invocation := invoiceRead "HD-1" "KH-1"

/-- The owner reads HD-1 twice, and the second time from the cache. -/
def cachedRead : List RegistryAction :=
  toAdapter 0 ownInvoice ++ toSuccess 0 ownInvoice invoiceOfFirst ++
    [.call (.inl (.execute ownInvoice)), .resume 1,
      .answer 1 (.inl (.cache (.get (readKey ownInvoice))))
        (Reply.ok (.obj [("data", invoiceOfFirst), ("cachedAt", .str "2023-11-14T22:13:20.000Z")])),
      .resume 1]

/-- The calls of the run are reads of one invoice. -/
def ReadsOnly (i : Invocation) (trace : RegistryTrace) : Bool :=
  trace.all fun entry => match entry.event with
    | .started (.inl (.execute j)) => decide (j = i)
    | _ => true

theorem ReadsOnly.collisionFree {i : Invocation} {trace : RegistryTrace}
    (only : ReadsOnly i trace = true) (wiring : Wiring) : CollisionFree wiring trace := by
  have same {j : Invocation} {tid : Nat} (began : Saw trace tid (.started (.inl (.execute j)))) :
      j = i := by
    obtain ⟨time, member⟩ := began
    exact of_decide_eq_true (List.all_eq_true.mp only _ member)
  intro j k tid other began begins _
  rw [same began, same begins]

def readFromCache (entry : PortTraceEntry registryOnly) : Bool :=
  match entry.event with
  | .finished (.inl (.execute _)) (.ok (.port reply)) =>
      reply.fromCache && !reply.degraded && !reply.fromIdempotency
  | _ => false

theorem cache_provenance_own_read :
    ∃ p, Reachable invoiceWiring.registry invoiceWorld p ∧
      p.snapshot.trace.any readFromCache = true ∧
      ∀ before after tid time i reply, p.snapshot.trace =
          before ++ ⟨tid, time, .finished (.inl (.execute i)) (.ok (.port reply))⟩ :: after →
        FromReadCache reply → ServedFrom invoiceWiring invoiceWorld.ports tid i reply before :=
  ⟨_, reachable_run invoiceWiring.registry invoiceWorld cachedRead (by decide +kernel),
    by decide +kernel,
    (cache_provenance invoiceWiring invoiceWorld rfl
      (reachable_run invoiceWiring.registry invoiceWorld cachedRead (by decide +kernel))
      (ReadsOnly.collisionFree (by decide +kernel : ReadsOnly ownInvoice _ = true) _)).1⟩

end SelfService
