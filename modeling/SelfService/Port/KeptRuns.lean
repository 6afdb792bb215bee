/-
Runs in which the calls of one key are kept apart.

Over a cache that works, what lies under a key is what the last call of that key
recorded there.
-/

import SelfService.Port.CacheHistory
import SelfService.Port.HandledCall

namespace SelfService

open Data EventLoop PortRegistry

/-! ### Runs -/

/-- The successful adapter calls. -/
def settledResult (entry : RegistryEntry) : Option (Invocation × JsValue) :=
  match entry.event with
  | .marked (.inl (.settled _ i (.ok data))) => some (i, data)
  | _ => none

/-- The idempotency key of a call, if it is one that counts. -/
def keyOf (i : Invocation) : Option String := i.idempotencyKey.filter fun rawKey => rawKey ≠ ""

def sharesKey (i j : Invocation) : Bool :=
  j.portName = i.portName && j.idempotencyKey = i.idempotencyKey

/-- The time for which a result is kept. -/
def RECORD_MS : Nat := InboundIdempotencyService.DEFAULT_TTL * 1000

/-- A success of the same port and key at most a day before. -/
def recentSuccess (i : Invocation) (now : Nat) (earlier : RegistryEntry) : Option JsValue :=
  match settledResult earlier with
  | some (j, data) =>
      if sharesKey i j ∧ now ≤ earlier.time + RECORD_MS then some data else none
  | none => none

def answersWith (data : JsValue) : Except Exn Resolution → Bool
  | .ok (.port result) => result.data = data
  | _ => false

/-- An adapter call of a port and key succeeds once a day; calls that begin later return its
result; and a call is answered from a record only by its own operation. -/
def executedOnce (before : RegistryTrace) (entry : RegistryEntry) : Bool :=
  match entry.event with
  | .marked (.inl (.settled _ i (.ok _))) =>
      (keyOf i).isNone || before.all fun earlier => (recentSuccess i entry.time earlier).isNone
  | .finished (.inl (.execute i)) result =>
      (keyOf i).isNone ||
        (before.takeWhile fun earlier => earlier.tid ≠ entry.tid).all (fun earlier =>
          (recentSuccess i entry.time earlier).all fun data => answersWith data result) &&
        match result with
        | .ok (.port answer) => !answer.fromIdempotency || before.any fun earlier =>
            (settledResult earlier).any fun success => sharesKey i success.1 &&
              success.1.method = i.method && success.2 = answer.data
        | _ => true
  | _ => true

def endsCall (tid : Nat) (entry : RegistryEntry) : Bool :=
  match entry.event with
  | .finished _ _ => entry.tid = tid
  | _ => false

/-- Calls of one key, or of one hash, follow each other and do the same; no job that carries a
key is replayed; and a result under a key reads back as it was. -/
def keysKeptApart (wiring : Wiring) (before : RegistryTrace) (entry : RegistryEntry) : Bool :=
  match entry.event with
  | .started (.inl (.execute i)) => (keyOf i).all fun mine =>
      (wiring.textHash mine).text ≠ (wiring.textHash "").text && before.all fun earlier =>
        match earlier.event with
        | .started (.inl (.execute j)) => (keyOf j).all fun other =>
            (wiring.textHash mine).text ≠ (wiring.textHash other).text ||
              mine = other && j.portName = i.portName && j.method = i.method &&
                before.any (endsCall earlier.tid)
        | _ => true
  | .started (.inl (.replay payload)) => (keyOf payload.invocation).isNone
  | .marked (.inl (.settled _ i (.ok data))) =>
      (keyOf i).isNone || !data.isNullish && wiring.backend.stored data = data
  | _ => true

section Runs

variable {wiring : Wiring} {world : World registryOnly}
  {p : Pool (portSignature registryOnly) Resolution}

theorem noService_asks (call : Empty) :
    (noService.body call).Asks (fun _ => False) fun _ => False := call.elim

theorem kept_chronicle (reached : Reachable wiring.keptRegistry world p) :
    Chronicle wiring.kept (fun _ => False) world.cache p.snapshot :=
  chronicle_reachable rfl noService_asks reached

theorem kept_clear (reached : Reachable wiring.keptRegistry world p) : Clear p.snapshot.trace :=
  clear_reachable rfl noService_asks (fun _ _ _ => id) reached

theorem kept_retains (reached : Reachable wiring.keptRegistry world p) :
    Retains wiring.kept world.cache p.snapshot :=
  (kept_chronicle reached).retains rfl (kept_clear reached)

/-- Adapter calls settle for the call that made them. -/
def SettledLaw (before : RegistryTrace) (entry : RegistryEntry) : Prop :=
  ∀ adapter i outcome, entry.event = .marked (.inl (.settled adapter i outcome)) →
    ∃ call : PortCall, Saw before entry.tid (.started (.inl call)) ∧ call.invocation = i

theorem ProcessStep.settled {s later : PortSnapshot registryOnly}
    (step : ProcessStep wiring.kept noService (fun _ => False) (fun _ => False) s later)
    (hold : Always SettledLaw s.trace) : Always SettledLaw later.trace := by
  have log {entry : RegistryEntry} (law : SettledLaw s.trace entry) :
      Always SettledLaw (s.trace ++ [entry]) := always_snoc.mpr ⟨hold, law⟩
  cases step with
  | registry later tid call began step =>
    cases step with
    | settle adapter outcome promised =>
      apply log
      rintro _ _ _ same
      cases same
      exact ⟨call, began, rfl⟩
    | breakers breakers => exact hold
    | invalidate => exact hold
    | request => exact log fun _ _ _ same => by cases same
    | answer request answer world issued performed => exact log fun _ _ _ same => by cases same
    | fill adapter data seen => exact log fun _ _ _ same => by cases same
    | fallBack data slot present => exact log fun _ _ _ same => by cases same
    | detach fresh other different kind => exact log fun _ _ _ same => by cases same
  | external event world moved => exact hold
  | mark tid label allowed => exact allowed.elim
  | answer tid request answer world call began allowed performed => exact call.elim
  | adapter tid ref context method params answer => exact log fun _ _ _ same => by cases same
  | started fresh call => exact log fun _ _ _ same => by cases same
  | finished tid call result outcome => exact log fun _ _ _ same => by cases same

theorem settled_reachable (reached : Reachable wiring.keptRegistry world p) :
    Always SettledLaw p.snapshot.trace := by
  have keeps (s later : PortSnapshot registryOnly) (step : ProcessStep wiring.kept noService
      (fun _ => False) (fun _ => False) s later) (hold : Always SettledLaw s.trace) :
      Always SettledLaw later.trace := step.settled hold
  exact reachable_of_steps rfl noService_asks keeps (always_nil _) reached
theorem answers_nonempty (request : (portSignature registryOnly).Req) :
    Nonempty ((portSignature registryOnly).Ans request) := by
  cases request with
  | inr request => exact request.elim
  | inl request =>
    cases request with
    | adapter ref context method params => exact ⟨.error (.error "")⟩
    | queueAdd payload => exact ⟨Reply.failed false ""⟩
    | cache command => cases command <;> exact ⟨Reply.failed false ""⟩

/-- At each of its entries a call is on its way to its end. -/
theorem foreseen_handled (reached : Reachable wiring.keptRegistry world p) {call : PortCall}
    {i : Invocation} {key : String} {post : Except Exn Resolution → Handled → Prop}
    (body : Observed (handle i key) post (portBody wiring.kept call) .nothing)
    {before after : RegistryTrace} {entry : RegistryEntry}
    (split : p.snapshot.trace = before ++ entry :: after) (inside : entry.event.InBody)
    (began : Saw before entry.tid (.started (.inl call))) :
    ∃ result last, post result last ∧
      (handle i key (observation (handle i key) .nothing (ownEntries entry.tid before))
        entry.event).Before last := by
  have begun : Observed (handle i key) post (wiring.keptRegistry.body (.inl call))
      (handle i key .nothing (.started (.inl call))) := body
  obtain ⟨result, events, ended⟩ :=
    reached.foreseen answers_nonempty begun split inside began
  exact ⟨result, _, ended, handle_foldl events _⟩

theorem succeeded_of_member (i : Invocation) (key : String) {trace : RegistryTrace}
    {entry : RegistryEntry} (member : entry ∈ trace) (success : settledResult entry ≠ none) :
    (observation (handle i key) .nothing trace).succeeded.isSome = true := by
  obtain ⟨early, late, rfl⟩ := List.append_of_mem member
  rw [observation_append]
  apply (observation_before (handle i key (observation (handle i key) .nothing early) entry.event)
    late).succeeded
  obtain ⟨tid, time, event⟩ := entry
  unfold settledResult at success
  split at success
  · rename_i same
    cases same
    rfl
  · exact absurd rfl success

/-- A run over a cache that works, in which the calls of one key are kept apart. -/
structure KeptRun (wiring : Wiring) (world : World registryOnly)
    (p : Pool (portSignature registryOnly) Resolution) : Prop where
  reached : Reachable wiring.keptRegistry world p
  fresh : NoRecords wiring world
  wired : wiring.idempotencyService = true
  apart : Passes (keysKeptApart wiring) p.snapshot.trace

theorem KeptRun.body (run : KeptRun wiring world p) {i : Invocation} {rawKey : String}
    (keyed : keyOf i = some rawKey) :
    Observed (handle i (InboundIdempotencyService.cacheKeyOf (wiring.textHash rawKey))) (EndsCall i)
      (portBody wiring.kept (.execute i)) .nothing := by
  obtain ⟨has, nonempty⟩ := Option.filter_eq_some_iff.mp keyed
  exact observed_body run.wired has (of_decide_eq_true nonempty) rfl

/-! ### Registration -/

/-- The registered ports stay as they are, over a cache that works too. -/
theorem kept_registration (ports : OrderedMap String PortEntry) :
    EventLoop.Kept wiring.keptRegistry fun world => world.ports = ports := by
  have registry : EventLoop.Kept wiring.registry fun world => world.ports = ports := kept_ports ports
  constructor
  · exact registry.bodies
  · intro state request answer after same performed
    rcases request with (command | ref | payload) | request
    · have performed : performPort wiring.kept state (.cache command) answer = some after :=
        performed
      obtain ⟨-, cache, -, rfl⟩ := performPort_cache performed
      exact same
    · cases performed
      exact same
    · cases (answer : Reply (Option String)) with
      | ok jobId =>
          cases performed
          exact same
      | failed applied reason =>
          cases performed
          cases applied <;> exact same
    · exact request.elim
  · intro world event after same moved
    have moved : World.external wiring.kept world event = some after := moved
    rcases external_cases moved with ⟨millis, rfl⟩ | ⟨fullKey, -, rfl⟩ | ⟨mock, endpoints, rfl⟩
    · exact same
    · exact same
    · exact same

/-- Only a call on an unknown port is told that its port is not registered. -/
theorem registered_execute {ports : OrderedMap String PortEntry} {i : Invocation} {rawKey : String}
    (wired : wiring.idempotencyService = true) (keyed : i.idempotencyKey = some rawKey)
    (nonempty : rawKey ≠ "") {key : String}
    (same : key = InboundIdempotencyService.buildCacheKey wiring.kept rawKey) :
    Watched (fun world : World registryOnly => world.ports = ports) (handle i key)
      (fun _ _ => True) (fun result _ => ports.get? i.portName = none ↔
        result = .error (.portNotRegistered i.portName))
      (portBody wiring.kept (.execute i)) .nothing := by
  change Watched _ _ _ _ (execute wiring.kept i >>= fun result =>
    EventLoop.Task.done (Resolution.port result)) _
  rw [watched_bind]
  unfold execute
  refine ⟨trivial, ?_⟩
  rintro world rfl
  simp only [Task.done_bind]
  split
  · rename_i absent
    exact iff_of_true absent rfl
  · rename_i entry found
    have leads := leads_executeRegistered (i := i) wired keyed nonempty same entry
      (adapterUsed world i.portName) world.now
    apply (leads.watched fun _ _ => trivial).mono
    intro result last ends
    cases result with
    | ok reply =>
        apply iff_of_false
        · rw [found]
          exact Option.some_ne_none entry
        · intro wrong
          cases wrong
    | error error =>
        apply iff_of_false
        · rw [found]
          exact Option.some_ne_none entry
        · intro wrong
          exact ends.registered i.portName (congrArg Except.error (Except.error.inj wrong))

section Successes

variable {before after : RegistryTrace} {tid time : Nat} {adapter : AdapterKind} {i : Invocation}
  {data : JsValue} {rawKey : String}

/-- An adapter call under a key succeeds for an `execute`. -/
theorem KeptRun.success_call (run : KeptRun wiring world p)
    (split : p.snapshot.trace =
      before ++ ⟨tid, time, .marked (.inl (.settled adapter i (.ok data)))⟩ :: after)
    (keyed : keyOf i = some rawKey) : Saw before tid (.started (.inl (.execute i))) := by
  obtain ⟨call, began, same⟩ := settled_reachable run.reached before _ after split _ _ _ rfl
  have detached (kind : call = .invalidate i ∨ call = .refresh i) : False := by
    have body : Observed (handle i "") (fun _ seen => seen = .nothing) (portBody wiring.kept call)
        .nothing := observed_detached kind
    obtain ⟨result, last, rfl, kept⟩ := foreseen_handled run.reached body split trivial began
    have succeeded := kept.succeeded rfl
    cases succeeded
  cases call with
  | execute j =>
    cases same
    exact began
  | invalidate j =>
    cases same
    exact (detached (Or.inl rfl)).elim
  | refresh j =>
    cases same
    exact (detached (Or.inr rfl)).elim
  | replay payload =>
    obtain ⟨moment, member⟩ := began
    obtain ⟨early, late, rfl⟩ := List.append_of_mem member
    rw [List.append_assoc, List.cons_append] at split
    have unkeyed := run.apart early _ _ split
    have same : payload.invocation = i := same
    simp [keysKeptApart, same, keyed] at unkeyed

theorem KeptRun.success_data (run : KeptRun wiring world p)
    (split : p.snapshot.trace =
      before ++ ⟨tid, time, .marked (.inl (.settled adapter i (.ok data)))⟩ :: after)
    (keyed : keyOf i = some rawKey) :
    data.isNullish = false ∧ wiring.backend.stored data = data := by
  have kept := run.apart before _ after split
  simpa [keysKeptApart, keyed] using kept

/-- Before its success a call has looked its key up in vain, and had no other success. -/
theorem KeptRun.success_missed (run : KeptRun wiring world p)
    (split : p.snapshot.trace =
      before ++ ⟨tid, time, .marked (.inl (.settled adapter i (.ok data)))⟩ :: after)
    (keyed : keyOf i = some rawKey) :
    (∀ earlier ∈ before, earlier.tid = tid → settledResult earlier = none) ∧
      ∃ asked, ∃ reply : Reply JsValue, ⟨tid, asked, .answered (.inl (.cache (.get
          (InboundIdempotencyService.cacheKeyOf (wiring.textHash rawKey))))) reply⟩ ∈ before ∧
        (reply.getD .null).isNullish = true := by
  obtain ⟨result, last, ended, kept⟩ := foreseen_handled run.reached (run.body keyed) split trivial
    (run.success_call split keyed)
  have sound : last.sound = true := by
    rcases ended with ⟨-, rfl⟩ | ⟨answer, -, ends⟩
    · rfl
    · exact ends.sound
  have now := kept.sound sound
  simp only [handle, Bool.and_eq_true] at now
  obtain ⟨⟨-, first⟩, looked⟩ := now
  constructor
  · intro earlier member own
    by_contra success
    have seen := succeeded_of_member i
      (InboundIdempotencyService.cacheKeyOf (wiring.textHash rawKey))
      (mem_ownEntries.mpr ⟨member, own⟩) success
    rw [Option.isNone_iff_eq_none.mp first] at seen
    cases seen
  · obtain ⟨value, found, nullish⟩ := (Option.any_eq_true _ _).mp looked
    obtain ⟨⟨other, asked, event⟩, member, reply, same, rfl⟩ :=
      found_of_observation (fun seen => seen.looked = some value)
        (fun _ _ => looked_of_handle) (fun wrong => by cases wrong) found
    obtain ⟨there, rfl⟩ := mem_ownEntries.mp member
    cases same
    exact ⟨asked, reply, there, nullish⟩

/-- A call succeeds once. -/
theorem KeptRun.success_unique (run : KeptRun wiring world p)
    (split : p.snapshot.trace =
      before ++ ⟨tid, time, .marked (.inl (.settled adapter i (.ok data)))⟩ :: after)
    (keyed : keyOf i = some rawKey) {early late : RegistryTrace} {moment : Nat}
    {kind : AdapterKind} {value : JsValue}
    (other : p.snapshot.trace =
      early ++ ⟨tid, moment, .marked (.inl (.settled kind i (.ok value)))⟩ :: late) :
    time = moment ∧ data = value := by
  rcases split_order (split.symm.trans other) with ⟨-, equal⟩ | ⟨middle, rfl⟩ | ⟨middle, rfl⟩
  · cases equal
    exact ⟨rfl, rfl⟩
  · have none_ := (run.success_missed other keyed).1 _
      (List.mem_append_right _ List.mem_cons_self) rfl
    cases none_
  · have none_ := (run.success_missed split keyed).1 _
      (List.mem_append_right _ List.mem_cons_self) rfl
    cases none_

end Successes

/-! ### What lies under a key -/

section Records

variable {before after : RegistryTrace} {tid time : Nat} {hash : ShortHash}

/-- What touches a record is the write of a result that the adapter came back with. -/
theorem KeptRun.set_of_touch (run : KeptRun wiring world p) {entry : RegistryEntry}
    (split : p.snapshot.trace = before ++ entry :: after)
    (touched : touchOf wiring.kept (getFullKey wiring.backend.options
      (InboundIdempotencyService.cacheKeyOf hash)) entry ≠ none) :
    ∃ value, ∃ reply : Reply Unit, ∃ adapter i rawKey,
      entry.event = .answered (.inl (.cache (.set (InboundIdempotencyService.cacheKeyOf hash) value
        (some InboundIdempotencyService.DEFAULT_TTL)))) reply ∧ reply.applied = true ∧
      i.idempotencyKey = some rawKey ∧ wiring.textHash rawKey = hash ∧
      Saw before entry.tid (.marked (.inl (.settled adapter i (.ok value)))) := by
  have owned := (kept_chronicle run.reached).owned
  obtain ⟨tid, time, event⟩ := entry
  unfold touchOf at touched
  split at touched
  · rename_i command answer same
    cases same
    obtain ⟨s, rfl, asked⟩ := owned.asked before _ after split
    obtain ⟨text, head⟩ := recordKey_head hash
    have touches : wiring.kept.backend.touches (getFullKey wiring.backend.options
        (InboundIdempotencyService.cacheKeyOf hash)) command = true := by
      by_contra untouched
      exact touched (touch_eq_none (Bool.eq_false_iff.mpr untouched))
    cases asked with
    | service call began allowed => exact call.elim
    | registry call began issued =>
      obtain ⟨rawKey, adapter, data, keyed, rfl, same, seen⟩ := issued.record_of_touches
        (owned.listings.earlier ⟨_, split.symm⟩)
        (fun portName other => (recordKey_ne hash other portName).symm)
        (unselected_of_head head (by decide) (by decide)) touches
      refine ⟨data, answer, adapter, _, rawKey, rfl, ?_, keyed, recordKey_injective same, seen⟩
      by_contra unapplied
      exact touched (if_neg fun both => unapplied both.1)
  · exact absurd rfl touched

/-- The last write of a record. -/
structure LastRecord (wiring : Wiring) (hash : ShortHash) (early : RegistryTrace)
    (writer : RegistryEntry) (late : RegistryTrace) (value : JsValue) : Prop where
  event : ∃ reply : Reply Unit, writer.event = .answered (.inl (.cache (.set
    (InboundIdempotencyService.cacheKeyOf hash) value
      (some InboundIdempotencyService.DEFAULT_TTL)))) reply
  left : touchOf wiring.kept (getFullKey wiring.backend.options
    (InboundIdempotencyService.cacheKeyOf hash)) writer = some (some (wiring.backend.entryOf
      writer.time value (some InboundIdempotencyService.DEFAULT_TTL)))
  silent : ∀ later ∈ late, touchOf wiring.kept (getFullKey wiring.backend.options
    (InboundIdempotencyService.cacheKeyOf hash)) later = none

theorem LastRecord.held {early late : RegistryTrace} {writer : RegistryEntry} {value : JsValue}
    (last : LastRecord wiring hash early writer late value) (start : Store) :
    held wiring.kept start (getFullKey wiring.backend.options
      (InboundIdempotencyService.cacheKeyOf hash)) (early ++ writer :: late) =
        some (wiring.backend.entryOf writer.time value
          (some InboundIdempotencyService.DEFAULT_TTL)) := by
  rw [SelfService.held, latest_of_split early late last.left fun later member =>
    Or.inl (last.silent later member), Option.getD_some]

theorem KeptRun.last_record (run : KeptRun wiring world p)
    (part : p.snapshot.trace = before ++ after)
    (written : ∃ entry ∈ before, touchOf wiring.kept (getFullKey wiring.backend.options
      (InboundIdempotencyService.cacheKeyOf hash)) entry ≠ none) :
    ∃ early writer late value, before = early ++ writer :: late ∧
      LastRecord wiring hash early writer late value := by
  cases found : latest (touchOf wiring.kept (getFullKey wiring.backend.options
      (InboundIdempotencyService.cacheKeyOf hash))) before with
  | none =>
    obtain ⟨entry, member, touched⟩ := written
    exact absurd (unsaid_of_latest found member) touched
  | some touch =>
    obtain ⟨early, writer, late, rfl, touched, silent⟩ := split_of_latest found
    rw [List.append_assoc, List.cons_append] at part
    obtain ⟨value, reply, adapter, i, rawKey, event, applied, -, -, -⟩ :=
      run.set_of_touch part (by rw [touched]; exact Option.some_ne_none touch)
    refine ⟨early, writer, late, value, rfl, ⟨reply, event⟩, ?_, silent⟩
    unfold touchOf
    rw [event]
    exact if_pos ⟨applied, rfl⟩

theorem spared_record (hash : ShortHash) : Spared wiring.kept (getFullKey wiring.backend.options
    (InboundIdempotencyService.cacheKeyOf hash)) := by
  obtain ⟨text, head⟩ := recordKey_head hash
  exact spared_of_head head (by decide) (by decide)

/-- A lookup within a day of the last write answers with it. -/
theorem KeptRun.hit_of_record (run : KeptRun wiring world p) {early late : RegistryTrace}
    {writer : RegistryEntry} {value : JsValue} {reply : Reply JsValue}
    (split : p.snapshot.trace = (early ++ writer :: late) ++ ⟨tid, time, .answered (.inl (.cache
      (.get (InboundIdempotencyService.cacheKeyOf hash)))) reply⟩ :: after)
    (last : LastRecord wiring hash early writer late value)
    (recent : time ≤ writer.time + RECORD_MS) :
    reply = .ok (wiring.backend.stored value) := by
  have answered := (kept_retains run.reached).lookups _ _ after split (spared_record hash)
  have alive : (wiring.backend.entryOf writer.time value
      (some InboundIdempotencyService.DEFAULT_TTL)).expired time = false := by
    rw [Backend.expired_entryOf (by decide), decide_eq_false_iff_not]
    exact Nat.not_lt.mpr recent
  have there : SelfService.held wiring.kept world.cache (getFullKey wiring.kept.backend.options
      (InboundIdempotencyService.cacheKeyOf hash)) (early ++ writer :: late) = _ := last.held _
  rw [answered, recalled, there, Option.filter_some, alive]
  rfl

/-- What a lookup hits was written last. -/
theorem KeptRun.record_of_hit (run : KeptRun wiring world p) {rawKey : String}
    {reply : Reply JsValue}
    (split : p.snapshot.trace = before ++ ⟨tid, time, .answered (.inl (.cache
      (.get (InboundIdempotencyService.cacheKeyOf (wiring.textHash rawKey))))) reply⟩ :: after)
    (present : (reply.getD .null).isNullish = false) :
    ∃ early writer late value, before = early ++ writer :: late ∧
      LastRecord wiring (wiring.textHash rawKey) early writer late value ∧
        reply = .ok (wiring.backend.stored value) := by
  have answered : reply = .ok (recalled wiring.kept world.cache
      (InboundIdempotencyService.cacheKeyOf (wiring.textHash rawKey)) time before) :=
    (kept_retains run.reached).lookups _ _ after split (spared_record _)
  have found : reply.getD .null ≠ .null := by
    intro absent
    rw [absent] at present
    cases present
  rw [answered] at found
  obtain ⟨left, there, -, same⟩ := held_of_recalled rfl found
  rcases left_of_held there with old | written
  · have absent := (run.fresh rawKey).symm.trans old
    cases absent
  · obtain ⟨entry, member, touched⟩ := written
    have stays : touchOf wiring.kept (getFullKey wiring.backend.options
        (InboundIdempotencyService.cacheKeyOf (wiring.textHash rawKey))) entry ≠ none := by
      intro untouched
      cases touched.symm.trans untouched
    obtain ⟨early, writer, late, value, rfl, last⟩ := run.last_record split ⟨entry, member, stays⟩
    refine ⟨early, writer, late, value, rfl, last, ?_⟩
    rw [answered, ← same]
    have known := (last.held world.cache).symm.trans there
    rw [← Option.some.inj known]
    rfl

end Records

end Runs

end SelfService
