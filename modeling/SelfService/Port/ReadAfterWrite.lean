/-
Reads after a write.

A mutation has the cached reads of its port deleted, and nobody waits for that; a
replay has nothing deleted.  A read that begins after a write has ended is
answered with what was produced after the write took effect, when the copies that
were fetched before are gone where the read hits the cache.
-/

import SelfService.Port.CallerIdentity

namespace SelfService

open Data EventLoop PortRegistry

/-- The call is a mutation on the port, or the replay of one. -/
def WritesTo (portName : String) : (portSignature registryOnly).Call → Prop
  | .inl (.execute i) => i.portName = portName ∧ isMutationMethod i.method = true
  | .inl (.replay payload) => payload.portName = portName ∧ isMutationMethod payload.method = true
  | _ => False

/-- With the last entry of `first` a write to the port takes effect, and it ends in `rest`. -/
def WriteEnded (portName : String) (first rest : RegistryTrace) : Prop :=
  ∃ earlier writer time target context method params data call result,
    first = earlier ++ [⟨writer, time,
      .answered (.inl (.adapter target context method params)) (.ok data)⟩] ∧
    Saw earlier writer (.started call) ∧ WritesTo portName call ∧
    Saw rest writer (.finished call result)

/-- In this part of the run an adapter answered the data. -/
def ProducedIn (wiring : Wiring) (data : JsValue) (part : RegistryTrace) : Prop :=
  ∃ j adapter fetched tid, Saw part tid (supplied adapter j fetched) ∧
    (data = fetched ∨ data = wiring.backend.stored fetched)

/-- A read that began after a write had ended is answered with what was produced after the write
took effect, unless the answer is degraded. -/
def ReadsFollowWrites (wiring : Wiring) (trace : RegistryTrace) : Prop :=
  ∀ first rest reader began i later ended reply after,
    trace = first ++ rest ++ ⟨reader, began, .started (.inl (.execute i))⟩ :: later ++
      ⟨reader, ended, .finished (.inl (.execute i)) (.ok (.port reply))⟩ :: after →
    WriteEnded i.portName first rest → isMutationMethod i.method = false →
    reply.degraded = false →
      ProducedIn wiring reply.data (rest ++ ⟨reader, began, .started (.inl (.execute i))⟩ :: later)

/-- Where such a read hits the cache, every copy under the key that was fetched before the write
took effect has been deleted or overwritten. -/
def StaleFillsGone (wiring : Wiring) (trace : RegistryTrace) : Prop :=
  ∀ first rest reader began i later time key cached after,
    trace = first ++ rest ++ ⟨reader, began, .started (.inl (.execute i))⟩ :: later ++
      ⟨reader, time, .answered (.inl (.cache (.get key))) (Reply.ok cached)⟩ :: after →
    WriteEnded i.portName first rest → isMutationMethod i.method = false →
    cached.isNullish = false →
    ∀ early late filler written value ttl answer j adapter fetched,
      first ++ rest ++ ⟨reader, began, .started (.inl (.execute i))⟩ :: later =
        early ++ ⟨filler, written, .answered (.inl (.cache (.set key value ttl))) answer⟩ :: late →
      Saw first filler (supplied adapter j fetched) →
        ∃ entry ∈ late,
          touchOf wiring.remote (getFullKey wiring.backend.options key) entry ≠ none

/-- How fetched data is filed: as it is under an idempotency key, in a record under the key of a
read. -/
def FiledAs (wiring : Wiring) (key : String) (value fetched : JsValue) : Prop :=
  (∃ rawKey, key = InboundIdempotencyService.buildCacheKey wiring.remote rawKey ∧ value = fetched) ∨
    ∃ portName method params cachedAt, key = buildCacheKey wiring.remote portName method params ∧
      value = .obj [("data", fetched), ("cachedAt", cachedAt)]

/-- In `front` every copy under the key that was fetched in `first` has been deleted or
overwritten. -/
def CopiesGone (wiring : Wiring) (first front : RegistryTrace) (key : String) : Prop :=
  ∀ early late filler written value ttl answer j adapter fetched,
    front = early ++
      ⟨filler, written, .answered (.inl (.cache (.set key value ttl))) answer⟩ :: late →
    Saw first filler (supplied adapter j fetched) →
      ∃ entry ∈ late, touchOf wiring.remote (getFullKey wiring.backend.options key) entry ≠ none

section Runs

variable {wiring : Wiring} {world : World registryOnly}
  {p : Pool (portSignature registryOnly) Resolution}

/-- What a fill writes was answered to its call. -/
theorem supplied_fill (reached : Reachable wiring.registry world p) {early after : RegistryTrace}
    {filler written : Nat} {key : String} {value : JsValue} {ttl : Option Nat}
    {answer : (CacheCommand.set key value ttl).Answer} (split : p.snapshot.trace =
      early ++ ⟨filler, written, .answered (.inl (.cache (.set key value ttl))) answer⟩ :: after) :
    ∃ j adapter fetched, Saw early filler (supplied adapter j fetched) ∧
      FiledAs wiring key value fetched := by
  obtain ⟨j, -, ⟨rawKey, adapter, -, keyed, own⟩ |
    ⟨keyed, entry, adapter, data, cachedAt, -, -, -, own, same⟩⟩ := writes_lawfully reached split
  · exact ⟨j, adapter, value, saw_of_fetched own, Or.inl ⟨rawKey, keyed, rfl⟩⟩
  · exact ⟨j, adapter, data, saw_of_fetched own, Or.inr ⟨_, _, _, cachedAt, keyed, same⟩⟩

/-- A fill that was left alone was fetched after the write took effect. -/
theorem fetched_late {first tail early late : RegistryTrace} {filler : Nat}
    {entry : PortTraceEntry registryOnly} {event : PortEvent registryOnly}
    (split : first ++ tail = early ++ entry :: late) (seen : Saw early filler event)
    (fresh : ¬ Saw first filler event) : Saw tail filler event := by
  obtain ⟨time, member⟩ := seen
  have inWhole : ⟨filler, time, event⟩ ∈ first ++ tail := by
    rw [split]
    exact List.mem_append_left _ member
  rcases List.mem_append.mp inWhole with old | new
  · exact absurd ⟨time, old⟩ fresh
  · exact ⟨time, new⟩

/-- What a call does comes after its start. -/
theorem split_after_start (reached : Reachable wiring.registry world p)
    {front later after : RegistryTrace} {reader began time : Nat}
    {call : (portSignature registryOnly).Call} {last : PortTraceEntry registryOnly}
    {event : PortEvent registryOnly}
    (split : p.snapshot.trace = front ++ ⟨reader, began, .started call⟩ :: later ++ last :: after)
    (other : ∀ begun, event ≠ .started begun)
    (member : ⟨reader, time, event⟩ ∈ front ++ ⟨reader, began, .started call⟩ :: later) :
    ⟨reader, time, event⟩ ∈ later := by
  rw [List.append_assoc, List.cons_append] at split
  rcases List.mem_append.mp member with old | new
  · exact absurd rfl (reached.start_first split old)
  · rcases List.mem_cons.mp new with same | inLater
    · cases same
      exact absurd rfl (other call)
    · exact inLater

/-- A hit finds what was produced since, where nothing that was fetched before is left. -/
theorem produced_hit (empty : world.cache = .empty) (reached : Reachable wiring.registry world p)
    {first rest later after : RegistryTrace} {reader began time : Nat} {i : Invocation}
    {key : String} {cached : JsValue}
    (gone : CopiesGone wiring first
      (first ++ rest ++ ⟨reader, began, .started (.inl (.execute i))⟩ :: later) key)
    (split : p.snapshot.trace = first ++ rest ++ ⟨reader, began, .started (.inl (.execute i))⟩ ::
      later ++ ⟨reader, time, .answered (.inl (.cache (.get key))) (Reply.ok cached)⟩ :: after)
    (present : cached.isNullish = false) :
    ∃ value j adapter fetched tid, cached = wiring.backend.stored value ∧
      Saw (rest ++ ⟨reader, began, .started (.inl (.execute i))⟩ :: later) tid
        (supplied adapter j fetched) ∧
      FiledAs wiring key value fetched := by
  obtain ⟨early, late, filler, moment, value, ttl, answer, front, same, -, silent⟩ :=
    written_of_lookup empty reached split present
  have whole := split
  rw [front, List.append_assoc, List.cons_append] at whole
  obtain ⟨j, adapter, fetched, seen, shape⟩ := supplied_fill reached whole
  refine ⟨value, j, adapter, fetched, filler, same, ?_, shape⟩
  have tailed := front
  rw [List.append_assoc] at tailed
  apply fetched_late tailed seen
  intro stale
  obtain ⟨entry, member, touched⟩ :=
    gone early late filler moment value ttl answer j adapter fetched front stale
  exact touched (silent entry member)

/-- A healthy answer was produced since, where no hit of its reader leaves a copy from before. -/
theorem produced_since (empty : world.cache = .empty) (reached : Reachable wiring.registry world p)
    {first rest later after : RegistryTrace} {reader began ended : Nat} {i : Invocation}
    {reply : PortResult}
    (split : p.snapshot.trace = first ++ rest ++ ⟨reader, began, .started (.inl (.execute i))⟩ ::
      later ++ ⟨reader, ended, .finished (.inl (.execute i)) (.ok (.port reply))⟩ :: after)
    (healthy : reply.degraded = false)
    (gone : ∀ early onwards time key cached,
      p.snapshot.trace = first ++ rest ++ ⟨reader, began, .started (.inl (.execute i))⟩ :: early ++
        ⟨reader, time, .answered (.inl (.cache (.get key))) (Reply.ok cached)⟩ :: onwards →
      cached.isNullish = false → CopiesGone wiring first
        (first ++ rest ++ ⟨reader, began, .started (.inl (.execute i))⟩ :: early) key) :
    ProducedIn wiring reply.data
      (rest ++ ⟨reader, began, .started (.inl (.execute i))⟩ :: later) := by
  -- a lookup of the reader stands after its start
  have looked {key : String} {cached : JsValue}
      (found : .answered (.inl (.cache (.get key))) (Reply.ok cached) ∈
        observation Fetched.observe [] (ownEntries reader
          (first ++ rest ++ ⟨reader, began, .started (.inl (.execute i))⟩ :: later))) :
      ∃ early late time, later = early ++
        ⟨reader, time, .answered (.inl (.cache (.get key))) (Reply.ok cached)⟩ :: late := by
    obtain ⟨time, member⟩ := saw_of_fetched found
    have inLater := split_after_start reached split (by rintro begun ⟨⟩) member
    obtain ⟨early, late, same⟩ := List.append_of_mem inLater
    exact ⟨early, late, time, same⟩
  have hit {key : String} {cached : JsValue} (present : cached.isNullish = false)
      (found : .answered (.inl (.cache (.get key))) (Reply.ok cached) ∈
        observation Fetched.observe [] (ownEntries reader
          (first ++ rest ++ ⟨reader, began, .started (.inl (.execute i))⟩ :: later))) :
      ∃ value j adapter fetched tid, cached = wiring.backend.stored value ∧
        Saw (rest ++ ⟨reader, began, .started (.inl (.execute i))⟩ :: later) tid
          (supplied adapter j fetched) ∧ FiledAs wiring key value fetched := by
    obtain ⟨early, late, time, rfl⟩ := looked found
    have whole : p.snapshot.trace =
        first ++ rest ++ ⟨reader, began, .started (.inl (.execute i))⟩ :: early ++
          ⟨reader, time, .answered (.inl (.cache (.get key))) (Reply.ok cached)⟩ ::
            (late ++ ⟨reader, ended, .finished (.inl (.execute i)) (.ok (.port reply))⟩ :: after) := by
      rw [split]
      simp only [List.append_assoc, List.cons_append]
    obtain ⟨value, j, adapter, fetched, tid, same, ⟨moment, seen⟩, shape⟩ :=
      produced_hit empty reached (gone early _ time key cached whole present) whole present
    refine ⟨value, j, adapter, fetched, tid, same, ⟨moment, ?_⟩, shape⟩
    rw [← List.cons_append, ← List.append_assoc]
    exact List.mem_append_left _ seen
  cases healthy_origin reached split healthy with
  | read cacheable cached present same found =>
      obtain ⟨value, j, adapter, fetched, tid, rfl, seen, filed⟩ := hit present found
      rcases filed with ⟨rawKey, wrong, -⟩ | ⟨_, _, _, cachedAt, -, rfl⟩
      · exact absurd wrong.symm (recordKey_ne _ _ _)
      · exact ⟨j, adapter, fetched, tid, seen, Or.inr (same.trans (stored_data _ _ _))⟩
  | record rawKey keyed present found replayed =>
      obtain ⟨value, j, adapter, fetched, tid, same, seen, filed⟩ := hit present found
      rcases filed with ⟨_, -, rfl⟩ | ⟨_, _, _, cachedAt, wrong, -⟩
      · exact ⟨j, adapter, value, tid, seen, Or.inr same⟩
      · exact absurd wrong (recordKey_ne _ _ _)
  | adapter kind found live =>
      obtain ⟨time, member⟩ := saw_of_fetched found
      have inLater := split_after_start reached split (by rintro begun ⟨⟩) member
      exact ⟨i, kind, reply.data, reader,
        ⟨time, List.mem_append_right _ (List.mem_cons_of_mem _ inLater)⟩, Or.inl rfl⟩

/-- While stale fills are gone in time, reads follow the writes. -/
theorem reads_follow_writes (wiring : Wiring) (world : World registryOnly)
    (empty : world.cache = .empty) {p : Pool (portSignature registryOnly) Resolution}
    (reached : Reachable wiring.registry world p)
    (gone : StaleFillsGone wiring p.snapshot.trace) :
    ReadsFollowWrites wiring p.snapshot.trace := by
  intro first rest reader began i later ended reply after split written readOnly healthy
  apply produced_since empty reached split healthy
  intro early onwards time key cached whole present
  exact gone first rest reader began i early time key cached onwards whole written readOnly present

end Runs

/-! ### A replayed update -/

def profileRead : Invocation where
  context := none
  portName := "customer-profile"
  method := "get-profile"
  params := .obj [("customerId", .str "KH-1")]
  idempotencyKey := none

def profileUpdate : Invocation where
  context := none
  portName := "customer-profile"
  method := "update-profile"
  params := .obj [("customerId", .str "KH-1"), ("data", .obj [("phone", .str "0909")])]
  idempotencyKey := none

/-- The hash is the one of the JSON text of the read. -/
def profileWiring : Wiring :=
  .configured true (fun _ => ⟨"e3b0c44298fc1c14", isHex_empty⟩)
    fun _ => ⟨"1b700b5fca58e436", by decide +kernel⟩

/-- The port is live, and an update that could not be made is queued. -/
def profileWorld : World registryOnly :=
  { register "customer-profile" (bareWorld 1700000000000 .empty
      (apiEndpoints.set "customer-profile" { readEndpoint .static 43200 with adapter := .live }) ())
    with jobs := [replayPayload profileUpdate] }

def profileKey : String :=
  buildCacheKey profileWiring.remote profileRead.portName profileRead.method profileRead.params

def profileOf (phone : String) : JsValue :=
  .obj [("customerId", .str "KH-1"), ("phone", .str phone)]

def cachedProfile (phone : String) : JsValue :=
  .obj [("data", profileOf phone), ("cachedAt", .str "2023-11-14T22:13:20.000Z")]

/-- The profile is read downstream and cached. -/
def profileFetched (tid : Nat) (phone : String) : List RegistryAction :=
  [.call (.inl (.execute profileRead)), .resume tid,
    .answer tid (.inl (.cache (.get profileKey))) (Reply.ok .null), .resume tid,
    .answer tid (.inl (.adapter ⟨"customer-profile", .live⟩ none profileRead.method
      profileRead.params)) (.ok (profileOf phone)), .resume tid,
    .answer tid (.inl (.cache (.set profileKey (cachedProfile phone) (some 43200)))) (Reply.ok ()),
    .resume tid]

def updateReplayed (tid : Nat) : List RegistryAction :=
  let payload := replayPayload profileUpdate
  [.call (.inl (.replay payload)), .resume tid,
    .answer tid (.inl (.adapter ⟨"customer-profile", .live⟩ payload.invocation.context
      payload.method payload.params)) (.ok (profileOf "0909")), .resume tid]

def updateMade (tid : Nat) : List RegistryAction :=
  [.call (.inl (.execute profileUpdate)), .resume tid,
    .answer tid (.inl (.adapter ⟨"customer-profile", .live⟩ none profileUpdate.method
      profileUpdate.params)) (.ok (profileOf "0909")), .resume tid]

/-- The cached reads of the port are listed and deleted. -/
def profilesDeleted (tid : Nat) : List RegistryAction :=
  let fullKey := getFullKey profileWiring.backend.options profileKey
  [.resume tid,
    .answer tid (.inl (.cache (.keys (portPattern "customer-profile")))) (Reply.ok [fullKey]),
    .resume tid, .answer tid (.inl (.cache (.del [fullKey]))) (Reply.ok ()), .resume tid]

def profileHit (tid : Nat) (phone : String) : List RegistryAction :=
  [.call (.inl (.execute profileRead)), .resume tid,
    .answer tid (.inl (.cache (.get profileKey))) (Reply.ok (cachedProfile phone)), .resume tid]

/-- The profile is cached, the update is replayed, and the profile is read again. -/
def replayedThenRead : List RegistryAction :=
  profileFetched 0 "0901" ++ updateReplayed 1 ++ profileHit 2 "0901"

/-- The profile is cached and updated, and read again when the cached copy has been deleted. -/
def updatedThenRead : List RegistryAction :=
  profileFetched 0 "0901" ++ updateMade 1 ++ profilesDeleted 2 ++ profileFetched 3 "0909"

/-- All lookups miss. -/
def MissesOnly (trace : RegistryTrace) : Bool :=
  trace.all fun entry => match entry.event with
    | .answered (.inl (.cache (.get _))) (.ok cached) => cached.isNullish
    | _ => true

theorem StaleFillsGone.of_misses {wiring : Wiring} {trace : RegistryTrace}
    (misses : MissesOnly trace = true) : StaleFillsGone wiring trace := by
  intro first rest reader began i later time key cached after split _ _ present
  have member : ⟨reader, time, .answered (.inl (.cache (.get key))) (Reply.ok cached)⟩ ∈ trace := by
    rw [split]
    simp
  have missed : cached.isNullish = true := List.all_eq_true.mp misses _ member
  cases present.symm.trans missed

def Unsupplied (trace : RegistryTrace) : Bool :=
  trace.all fun entry => match entry.event with
    | .answered (.inl (.adapter _ _ _ _)) _ => false
    | _ => true

/-- Nothing in this part was answered by an adapter. -/
theorem not_producedIn {wiring : Wiring} {data : JsValue} {part : RegistryTrace}
    (none_ : Unsupplied part = true) : ¬ ProducedIn wiring data part := by
  rintro ⟨j, adapter, fetched, tid, ⟨time, seen⟩, -⟩
  cases List.all_eq_true.mp none_ _ seen

def startsRead (tid : Nat) (i : Invocation) (entry : PortTraceEntry registryOnly) : Bool :=
  match entry.event with
  | .started (.inl (.execute j)) => decide (entry.tid = tid ∧ j = i)
  | _ => false

def startsReplay (tid : Nat) (payload : ReplayJobPayload) (entry : PortTraceEntry registryOnly) :
    Bool :=
  match entry.event with
  | .started (.inl (.replay other)) => decide (entry.tid = tid ∧ other = payload)
  | _ => false

def takesEffect (tid : Nat) (entry : PortTraceEntry registryOnly) : Bool :=
  match entry.event with
  | .answered (.inl (.adapter _ _ _ _)) (.ok _) => decide (entry.tid = tid)
  | _ => false

def endsReplay (tid : Nat) (payload : ReplayJobPayload) (entry : PortTraceEntry registryOnly) :
    Bool :=
  match entry.event with
  | .finished (.inl (.replay other)) _ => decide (entry.tid = tid ∧ other = payload)
  | _ => false

def answersRead (tid : Nat) (i : Invocation) (entry : PortTraceEntry registryOnly) : Bool :=
  match entry.event with
  | .finished (.inl (.execute j)) (.ok (.port reply)) =>
      decide (entry.tid = tid ∧ j = i ∧ reply.degraded = false)
  | _ => false

theorem split_at_index {entries : RegistryTrace} {place : Nat}
    {test : PortTraceEntry registryOnly → Bool} (passes : entries[place]?.any test = true) :
    ∃ entry, test entry = true ∧ entries = entries.take place ++ entry :: entries.drop (place + 1) := by
  cases found : entries[place]? with
  | none =>
      rw [found] at passes
      cases passes
  | some entry =>
      rw [found, Option.any_some] at passes
      obtain ⟨inside, same⟩ := List.getElem?_eq_some_iff.mp found
      refine ⟨entry, passes, ?_⟩
      rw [← same, List.getElem_cons_drop, List.take_append_drop]

theorem saw_of_startsReplay {part : RegistryTrace} {tid : Nat} {payload : ReplayJobPayload}
    (begins : part.any (startsReplay tid payload) = true) :
    Saw part tid (.started (.inl (.replay payload))) := by
  obtain ⟨⟨other, time, event⟩, member, starts⟩ := List.any_eq_true.mp begins
  unfold startsReplay at starts
  split at starts
  · rename_i found same
    obtain ⟨sameTid, samePayload⟩ := of_decide_eq_true starts
    dsimp only at same sameTid
    subst same sameTid samePayload
    exact ⟨time, member⟩
  · cases starts

theorem saw_of_endsReplay {part : RegistryTrace} {tid : Nat} {payload : ReplayJobPayload}
    (ended : part.any (endsReplay tid payload) = true) :
    ∃ result, Saw part tid (.finished (.inl (.replay payload)) result) := by
  obtain ⟨⟨other, time, event⟩, member, ends⟩ := List.any_eq_true.mp ended
  unfold endsReplay at ends
  split at ends
  · rename_i found result same
    obtain ⟨sameTid, samePayload⟩ := of_decide_eq_true ends
    dsimp only at same sameTid
    subst same sameTid samePayload
    exact ⟨result, time, member⟩
  · cases ends

/-- A replay has ended, nothing was asked of an adapter since, and a read is answered. -/
theorem not_readsFollowWrites {wiring : Wiring} {entries : RegistryTrace} {i : Invocation}
    {payload : ReplayJobPayload} (effect start answer : Nat) (writer reader : Nat)
    (samePort : payload.portName = i.portName)
    (mutation : isMutationMethod payload.method = true)
    (readOnly : isMutationMethod i.method = false)
    (answers : entries[answer]?.any (answersRead reader i) = true)
    (starts : (entries.take answer)[start]?.any (startsRead reader i) = true)
    (takes : ((entries.take answer).take start)[effect]?.any (takesEffect writer) = true)
    (begins : (((entries.take answer).take start).take effect).any (startsReplay writer payload) = true)
    (ends : (((entries.take answer).take start).drop (effect + 1)).any (endsReplay writer payload) = true)
    (before : Unsupplied (((entries.take answer).take start).drop (effect + 1)) = true)
    (after : Unsupplied ((entries.take answer).drop (start + 1)) = true) :
    ¬ ReadsFollowWrites wiring entries := by
  intro follow
  obtain ⟨⟨tid, ended, last⟩, isLast, whole⟩ := split_at_index answers
  obtain ⟨⟨other, began, first⟩, isFirst, front⟩ := split_at_index starts
  obtain ⟨⟨third, moment, applied⟩, isApplied, split⟩ := split_at_index takes
  unfold answersRead at isLast
  split at isLast
  · rename_i j reply sameLast
    obtain ⟨sameTid, rfl, healthy⟩ := of_decide_eq_true isLast
    unfold startsRead at isFirst
    split at isFirst
    · rename_i k sameFirst
      obtain ⟨sameOther, rfl⟩ := of_decide_eq_true isFirst
      unfold takesEffect at isApplied
      split at isApplied
      · rename_i target context method params data sameApplied
        have sameThird := of_decide_eq_true isApplied
        dsimp only at sameLast sameTid sameFirst sameOther sameApplied sameThird
        subst sameLast sameTid sameFirst sameOther sameApplied sameThird
        obtain ⟨result, finish⟩ := saw_of_endsReplay ends
        have written : WriteEnded k.portName
            (((entries.take answer).take start).take effect ++
              [⟨third, moment, .answered (.inl (.adapter target context method params)) (.ok data)⟩])
            (((entries.take answer).take start).drop (effect + 1)) :=
          ⟨_, third, moment, target, context, method, params, data, .inl (.replay payload), result,
            rfl, saw_of_startsReplay begins, ⟨samePort, mutation⟩, finish⟩
        rw [List.append_cons] at split
        have folded := front.trans (congrArg
          (· ++ ⟨other, began, .started (.inl (.execute k))⟩ :: (entries.take answer).drop (start + 1))
          split)
        have unfolded := whole.trans (congrArg
          (· ++ ⟨other, ended, .finished (.inl (.execute k)) (.ok (.port reply))⟩ ::
            entries.drop (answer + 1)) folded)
        have quiet : Unsupplied (((entries.take answer).take start).drop (effect + 1) ++
            ⟨other, began, .started (.inl (.execute k))⟩ ::
              (entries.take answer).drop (start + 1)) = true := by
          unfold Unsupplied at before after ⊢
          rw [List.all_append, List.all_cons, before, after]
          rfl
        exact not_producedIn quiet
          (follow _ _ other began k _ ended reply _ unfolded written readOnly healthy)
      · cases isApplied
    · cases isFirst
  · cases isLast

/-- After the replay the profile of before is read. -/
theorem replay_leaves_reads :
    ∃ p, Reachable profileWiring.registry profileWorld p ∧
      ¬ ReadsFollowWrites profileWiring p.snapshot.trace :=
  ⟨_, reachable_run profileWiring.registry profileWorld replayedThenRead (by decide +kernel),
    not_readsFollowWrites 9 13 16 1 2
      (show (replayPayload profileUpdate).portName = profileRead.portName from rfl)
      (by decide +kernel) (by decide +kernel) (by decide +kernel) (by decide +kernel)
      (by decide +kernel) (by decide +kernel) (by decide +kernel) (by decide +kernel)
      (by decide +kernel)⟩

theorem reads_follow_writes_updated :
    ∃ p, Reachable profileWiring.registry profileWorld p ∧ p.snapshot.trace.length = 26 ∧
      ReadsFollowWrites profileWiring p.snapshot.trace :=
  ⟨_, reachable_run profileWiring.registry profileWorld updatedThenRead (by decide +kernel),
    by decide +kernel,
    reads_follow_writes profileWiring profileWorld rfl
      (reachable_run profileWiring.registry profileWorld updatedThenRead (by decide +kernel))
      (StaleFillsGone.of_misses (by decide +kernel))⟩

end SelfService
