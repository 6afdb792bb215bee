/-
Idempotent calls that run once.

An idempotent call looks its key up, calls its adapter only on a miss, and
records what the adapter came back with before it returns.  So with a cache that
works, calls of one key that do not overlap reach their adapter once a day.
-/

import SelfService.Port.KeptRuns

namespace SelfService

open Data EventLoop PortRegistry

section Runs

variable {wiring : Wiring} {world : World registryOnly}
  {p : Pool (portSignature registryOnly) Resolution}

/-! ### Calls of one key -/

section Calls

variable {before after : RegistryTrace} {tid other time moment : Nat} {i j : Invocation}
  {rawKey otherKey : String} {result : Except Exn Resolution}

/-- Whatever a call of `execute` settles is its own. -/
theorem KeptRun.settled_own (run : KeptRun wiring world p)
    (began : p.snapshot.Saw tid (.started (.inl (.execute i)))) {adapter : AdapterKind}
    {outcome : Except Exn JsValue}
    (settled : p.snapshot.Saw tid (.marked (.inl (.settled adapter j outcome)))) :
    j = i := by
  obtain ⟨time, member⟩ := settled
  obtain ⟨before, after, split⟩ := List.append_of_mem member
  obtain ⟨call, ⟨moment, there⟩, rfl⟩ :=
    settled_reachable run.reached before _ after split _ _ _ rfl
  have seen : p.snapshot.Saw tid (.started (.inl call)) := ⟨moment, by rw [split]; simp [there]⟩
  cases run.reached.started_unique seen began
  rfl

/-- A key whose hash is that of the key of a call is a key that counts. -/
theorem KeptRun.keyed_of_hash (run : KeptRun wiring world p)
    (began : p.snapshot.Saw tid (.started (.inl (.execute i)))) (keyed : keyOf i = some rawKey)
    (has : j.idempotencyKey = some otherKey)
    (hashes : wiring.textHash otherKey = wiring.textHash rawKey) : keyOf j = some otherKey := by
  obtain ⟨time, member⟩ := began
  obtain ⟨before, after, split⟩ := List.append_of_mem member
  have apart := run.apart before _ after split
  have nonempty : otherKey ≠ "" := by
    rintro rfl
    simp [keysKeptApart, keyed, hashes] at apart
  rw [keyOf, has, Option.filter_some, if_pos (decide_eq_true nonempty)]

/-- When a call begins, the earlier calls of its hash have ended, and do the same. -/
theorem KeptRun.started_apart (run : KeptRun wiring world p)
    (split : p.snapshot.trace = before ++ ⟨tid, time, .started (.inl (.execute i))⟩ :: after)
    (keyed : keyOf i = some rawKey)
    (member : ⟨other, moment, .started (.inl (.execute j))⟩ ∈ before)
    (otherKeyed : keyOf j = some otherKey)
    (hashes : wiring.textHash rawKey = wiring.textHash otherKey) :
    rawKey = otherKey ∧ j.portName = i.portName ∧ j.method = i.method ∧
      ∃ ended result, ⟨other, ended, .finished (.inl (.execute j)) result⟩ ∈ before := by
  have apart := run.apart before _ after split
  simp only [keysKeptApart, keyed, Option.all_some, Bool.and_eq_true] at apart
  have same := List.all_eq_true.mp apart.2 _ member
  simp only [otherKeyed, Option.all_some, hashes, ne_eq, not_true_eq_false, decide_false,
    Bool.false_or, Bool.and_eq_true, decide_eq_true_eq] at same
  obtain ⟨⟨⟨keys, ports⟩, methods⟩, ended⟩ := same
  refine ⟨keys, ports, methods, ?_⟩
  obtain ⟨⟨own, moment, event⟩, there, ends⟩ := List.any_eq_true.mp ended
  unfold endsCall at ends
  split at ends
  · rename_i call result same
    cases same
    obtain rfl : own = other := of_decide_eq_true ends
    obtain ⟨early, late, rfl⟩ := List.append_of_mem there
    have began : p.snapshot.Saw own (.started (.inl (.execute j))) :=
      ⟨_, by rw [split]; exact List.mem_append_left _ member⟩
    rw [List.append_assoc, List.cons_append] at split
    obtain ⟨start, first⟩ := run.reached.finished_began split
    have finished : p.snapshot.Saw own (.started call) := ⟨start, by rw [split]; simp [first]⟩
    cases run.reached.started_unique began finished
    exact ⟨moment, result, by simp⟩
  · cases ends

/-- A call that has succeeded and ended has left its record, and returned its result. -/
theorem KeptRun.recorded (run : KeptRun wiring world p)
    (split : p.snapshot.trace = before ++ ⟨tid, time, .finished (.inl (.execute i)) result⟩ :: after)
    (keyed : keyOf i = some rawKey) {adapter : AdapterKind} {data : JsValue}
    (success : ⟨tid, moment, .marked (.inl (.settled adapter i (.ok data)))⟩ ∈ before) :
    (∀ name, result ≠ .error (.portNotRegistered name)) ∧
      ∃ writer ∈ before, writer.tid = tid ∧ moment ≤ writer.time ∧ touchOf wiring.kept
        (getFullKey wiring.backend.options
          (InboundIdempotencyService.cacheKeyOf (wiring.textHash rawKey))) writer ≠ none := by
  have begun : Observed (handle i (InboundIdempotencyService.cacheKeyOf (wiring.textHash rawKey)))
      (EndsCall i) (wiring.keptRegistry.body (.inl (.execute i)))
      (handle i (InboundIdempotencyService.cacheKeyOf (wiring.textHash rawKey)) .nothing
        (.started (.inl (.execute i)))) := run.body keyed
  have ended := run.reached.observed begun split
  have succeeded := succeeded_of_member i
    (InboundIdempotencyService.cacheKeyOf (wiring.textHash rawKey))
    (mem_ownEntries.mpr ⟨success, rfl⟩) (by simp [settledResult])
  rcases ended with ⟨-, nothing⟩ | ⟨answer, rfl, ends⟩
  · rw [nothing] at succeeded
    cases succeeded
  · obtain ⟨own, known⟩ := Option.isSome_iff_exists.mp succeeded
    obtain ⟨noted, value, same, -⟩ := ends.recorded own known
    constructor
    · intro name
      rw [same]
      exact nofun
    · obtain ⟨⟨writer, written, event⟩, member, stored, ttl, reply, wrote⟩ :=
        found_of_observation (fun seen => seen.recorded = true) (fun _ _ => recorded_of_handle)
          nofun noted
      obtain ⟨there, rfl⟩ := mem_ownEntries.mp member
      cases wrote
      obtain ⟨early, late, rfl⟩ := List.append_of_mem there
      have whole := split
      rw [List.append_assoc, List.cons_append] at whole
      have serves : reply.isOk = true := (kept_retains run.reached).serves early _ _ whole
      have touched : touchOf wiring.kept (getFullKey wiring.backend.options
          (InboundIdempotencyService.cacheKeyOf (wiring.textHash rawKey)))
          (⟨writer, written, .answered (.inl (.cache (.set (InboundIdempotencyService.cacheKeyOf
            (wiring.textHash rawKey)) stored ttl))) reply⟩ : RegistryEntry) ≠ none := by
        intro untouched
        have left : wiring.kept.backend.touch (getFullKey wiring.backend.options
            (InboundIdempotencyService.cacheKeyOf (wiring.textHash rawKey))) written
            (.set (InboundIdempotencyService.cacheKeyOf (wiring.textHash rawKey)) stored ttl) reply =
              some (some (wiring.backend.entryOf written stored ttl)) :=
          if_pos ⟨Backend.applied_of_isOk serves, rfl⟩
        cases left.symm.trans untouched
      refine ⟨_, there, rfl, ?_, touched⟩
      obtain ⟨value, _, kind, j, _, -, -, -, -, ⟨settledAt, settled⟩⟩ :=
        run.set_of_touch whole touched
      have began : p.snapshot.Saw writer (.started (.inl (.execute i))) := by
        obtain ⟨start, first⟩ := run.reached.finished_began split
        exact ⟨start, by rw [split]; exact List.mem_append_left _ first⟩
      have own : p.snapshot.Saw writer (.marked (.inl (.settled kind j (.ok value)))) :=
        ⟨settledAt, by rw [whole]; exact List.mem_append_left _ settled⟩
      obtain rfl := run.settled_own began own
      obtain ⟨front, back, rfl⟩ := List.append_of_mem settled
      obtain ⟨first, last, splitSuccess⟩ := List.append_of_mem success
      rw [splitSuccess, List.append_assoc, List.cons_append] at split
      have times := (kept_chronicle run.reached).timely.ordered _ _ _ whole
        ⟨writer, settledAt, .marked (.inl (.settled kind j (.ok value)))⟩ (by simp)
      rw [List.append_assoc, List.cons_append] at whole
      obtain ⟨rfl, -⟩ := run.success_unique split keyed whole
      exact times

/-- Whether the port of a call is registered shows in how the call ends. -/
theorem KeptRun.refused_iff (run : KeptRun wiring world p)
    (split : p.snapshot.trace = before ++ ⟨tid, time, .finished (.inl (.execute i)) result⟩ :: after)
    (keyed : keyOf i = some rawKey) :
    world.ports.get? i.portName = none ↔ result = .error (.portNotRegistered i.portName) := by
  obtain ⟨has, nonempty⟩ := Option.filter_eq_some_iff.mp keyed
  have body : Watched (fun now : World registryOnly => now.ports = world.ports)
      (handle i (InboundIdempotencyService.cacheKeyOf (wiring.textHash rawKey)))
      (fun _ _ => True) (fun result _ => world.ports.get? i.portName = none ↔
        result = .error (.portNotRegistered i.portName))
      (portBody wiring.kept (.execute i)) .nothing :=
    registered_execute run.wired has (of_decide_eq_true nonempty) rfl
  exact (kept_registration world.ports).watched rfl run.reached (fun _ _ => rfl) body split

/-- What was recorded last is the result of a success under a key of the same hash. -/
theorem KeptRun.record_data (run : KeptRun wiring world p)
    (began : p.snapshot.Saw tid (.started (.inl (.execute i)))) (keyed : keyOf i = some rawKey)
    {early late : RegistryTrace} {writer : RegistryEntry} {value : JsValue}
    (split : p.snapshot.trace = (early ++ writer :: late) ++ after)
    (last : LastRecord wiring (wiring.textHash rawKey) early writer late value) :
    value.isNullish = false ∧ wiring.backend.stored value = value ∧
      ∃ adapter j otherKey, keyOf j = some otherKey ∧
        wiring.textHash otherKey = wiring.textHash rawKey ∧
        Saw early writer.tid (.marked (.inl (.settled adapter j (.ok value)))) := by
  rw [List.append_assoc, List.cons_append] at split
  obtain ⟨other, reply, adapter, j, otherKey, event, -, has, hashes, seen⟩ :=
    run.set_of_touch split (by rw [last.left]; exact Option.some_ne_none _)
  obtain ⟨first, same⟩ := last.event
  cases same.symm.trans event
  have counts := run.keyed_of_hash began keyed has hashes
  obtain ⟨settledAt, member⟩ := seen
  obtain ⟨front, back, rfl⟩ := List.append_of_mem member
  rw [List.append_assoc, List.cons_append] at split
  obtain ⟨present, stored⟩ := run.success_data split counts
  exact ⟨present, stored, adapter, j, otherKey, counts, hashes, settledAt, member⟩

/-- A success of the same key that came before the call began was recorded by then. -/
theorem KeptRun.recorded_before (run : KeptRun wiring world p) {front : RegistryTrace}
    {began settledAt : Nat} {adapter : AdapterKind} {data : JsValue}
    (split : p.snapshot.trace = front ++ ⟨tid, began, .started (.inl (.execute i))⟩ :: after)
    (keyed : keyOf i = some rawKey) (sameKey : keyOf j = some rawKey)
    (success : ⟨other, settledAt, .marked (.inl (.settled adapter j (.ok data)))⟩ ∈ front) :
    ∃ ended result, ⟨other, ended, .finished (.inl (.execute j)) result⟩ ∈ front ∧
      (∀ name, result ≠ .error (.portNotRegistered name)) ∧
      ∃ writer ∈ front, writer.tid = other ∧ settledAt ≤ writer.time ∧ touchOf wiring.kept
        (getFullKey wiring.backend.options
          (InboundIdempotencyService.cacheKeyOf (wiring.textHash rawKey))) writer ≠ none := by
  obtain ⟨first, last, rfl⟩ := List.append_of_mem success
  have whole := split
  rw [List.append_assoc, List.cons_append] at whole
  obtain ⟨moment, started⟩ := run.success_call whole sameKey
  obtain ⟨-, -, -, ended, result, finished⟩ :=
    run.started_apart split keyed (List.mem_append_left _ started) sameKey rfl
  have later : ⟨other, ended, .finished (.inl (.execute j)) result⟩ ∈ last := by
    rcases List.mem_append.mp finished with early | late
    · exact absurd early (run.reached.end_last whole)
    · rcases List.mem_cons.mp late with same | inLast
      · cases same
      · exact inLast
  obtain ⟨between, rest, rfl⟩ := List.append_of_mem later
  have ending : p.snapshot.trace =
      (first ++ ⟨other, settledAt, .marked (.inl (.settled adapter j (.ok data)))⟩ :: between) ++
        ⟨other, ended, .finished (.inl (.execute j)) result⟩ ::
          (rest ++ ⟨tid, began, .started (.inl (.execute i))⟩ :: after) := by
    rw [split]
    simp only [List.append_assoc, List.cons_append]
  have settled : (⟨other, settledAt, .marked (.inl (.settled adapter j (.ok data)))⟩ :
      RegistryEntry) ∈ first ++ ⟨other, settledAt, .marked (.inl (.settled adapter j (.ok data)))⟩ ::
        between := by simp
  obtain ⟨registered, writer, there, own, recent, touched⟩ := run.recorded ending sameKey settled
  refine ⟨ended, result, finished, registered, writer, ?_, own, recent, touched⟩
  rw [← List.cons_append, ← List.append_assoc]
  exact List.mem_append_left _ there

/-- A recent success of the same key, from before the call began, is hit by its lookup. -/
theorem KeptRun.hit_of_success (run : KeptRun wiring world p) {front middle : RegistryTrace}
    {began asked settledAt : Nat} {adapter : AdapterKind} {data : JsValue} {reply : Reply JsValue}
    (split : p.snapshot.trace = front ++ ⟨tid, began, .started (.inl (.execute i))⟩ :: middle ++
      ⟨tid, asked, .answered (.inl (.cache (.get (InboundIdempotencyService.cacheKeyOf
        (wiring.textHash rawKey))))) reply⟩ :: after)
    (keyed : keyOf i = some rawKey) (sameKey : keyOf j = some rawKey)
    (success : ⟨other, settledAt, .marked (.inl (.settled adapter j (.ok data)))⟩ ∈ front)
    (recent : asked ≤ settledAt + RECORD_MS) :
    (reply.getD .null).isNullish = false := by
  have start := split
  rw [List.append_assoc, List.cons_append] at start
  obtain ⟨-, -, -, -, writer, there, -, late, touched⟩ :=
    run.recorded_before start keyed sameKey success
  obtain ⟨early, final, rest, value, same, last⟩ :=
    run.last_record split ⟨writer, List.mem_append_left _ there, touched⟩
  have begun : p.snapshot.Saw tid (.started (.inl (.execute i))) := ⟨began, by rw [start]; simp⟩
  rw [same] at split
  have ordered : writer.time ≤ final.time := by
    have member : writer ∈ early ++ final :: rest := by
      rw [← same]
      exact List.mem_append_left _ there
    rcases List.mem_append.mp member with before | after
    · have whole := split
      rw [List.append_assoc, List.cons_append] at whole
      exact (kept_chronicle run.reached).timely.ordered _ _ _ whole writer before
    · rcases List.mem_cons.mp after with rfl | silent
      · exact Nat.le_refl _
      · exact absurd (last.silent writer silent) touched
  have found := run.hit_of_record split last (by omega)
  obtain ⟨present, stored, -⟩ := run.record_data begun keyed split last
  rw [found, stored]
  exact present

/-- Of two calls of one key the later success is that of a call that began after the earlier. -/
theorem KeptRun.begins_after (run : KeptRun wiring world p) {adapter kind : AdapterKind}
    {data value : JsValue} {first last : RegistryTrace}
    (split : p.snapshot.trace =
      first ++ ⟨other, moment, .marked (.inl (.settled kind j (.ok value)))⟩ :: last ++
        ⟨tid, time, .marked (.inl (.settled adapter i (.ok data)))⟩ :: after)
    (keyed : keyOf i = some rawKey) (sameKey : keyOf j = some rawKey) :
    other ≠ tid ∧ ∃ startedAt, ⟨tid, startedAt, .started (.inl (.execute i))⟩ ∈ last := by
  have whole := split
  rw [List.append_assoc, List.cons_append] at whole
  obtain ⟨startedAt, started⟩ := run.success_call split keyed
  obtain ⟨begunAt, begun⟩ := run.success_call whole sameKey
  have different : other ≠ tid := by
    rintro rfl
    have none_ := (run.success_missed split keyed).1 _
      (List.mem_append_right _ List.mem_cons_self) rfl
    cases none_
  refine ⟨different, startedAt, ?_⟩
  rcases List.mem_append.mp started with inFirst | inRest
  · -- otherwise one of the calls would have ended before it succeeded
    obtain ⟨front, back, rfl⟩ := List.append_of_mem inFirst
    rcases List.mem_append.mp begun with inFront | inBack
    · have start := whole
      rw [List.append_assoc, List.cons_append] at start
      obtain ⟨-, -, -, ended, result, finished⟩ :=
        run.started_apart start keyed inFront sameKey rfl
      exact absurd (List.mem_append_left _ finished) (run.reached.end_last whole)
    · rcases List.mem_cons.mp inBack with same | inRest
      · cases same
        exact absurd rfl different
      · obtain ⟨between, rest, rfl⟩ := List.append_of_mem inRest
        have start : p.snapshot.trace =
            (front ++ ⟨tid, startedAt, .started (.inl (.execute i))⟩ :: between) ++
              ⟨other, begunAt, .started (.inl (.execute j))⟩ :: (rest ++
                ⟨other, moment, .marked (.inl (.settled kind j (.ok value)))⟩ :: (last ++
                  ⟨tid, time, .marked (.inl (.settled adapter i (.ok data)))⟩ :: after)) := by
          rw [split]
          simp only [List.append_assoc, List.cons_append]
        obtain ⟨-, -, -, ended, result, finished⟩ :=
          run.started_apart start sameKey (List.mem_append_right _ List.mem_cons_self) keyed rfl
        have before : ⟨tid, ended, .finished (.inl (.execute i)) result⟩ ∈
            (front ++ ⟨tid, startedAt, .started (.inl (.execute i))⟩ :: (between ++
              ⟨other, begunAt, .started (.inl (.execute j))⟩ :: rest)) ++
                ⟨other, moment, .marked (.inl (.settled kind j (.ok value)))⟩ :: last := by
          rcases List.mem_append.mp finished with inFront | inBetween
          · simp [inFront]
          · rcases List.mem_cons.mp inBetween with same | inside
            · cases same
            · simp [inside]
        exact absurd before (run.reached.end_last split)
  · rcases List.mem_cons.mp inRest with same | inLast
    · cases same
    · exact inLast

/-- A second success under a key comes more than a day after the first. -/
theorem KeptRun.succeeds_once (run : KeptRun wiring world p) {adapter kind : AdapterKind}
    {data value : JsValue}
    (split : p.snapshot.trace =
      before ++ ⟨tid, time, .marked (.inl (.settled adapter i (.ok data)))⟩ :: after)
    (keyed : keyOf i = some rawKey) (sameKey : keyOf j = some rawKey)
    (earlier : ⟨other, moment, .marked (.inl (.settled kind j (.ok value)))⟩ ∈ before) :
    moment + RECORD_MS < time := by
  by_contra soon
  have recent : time ≤ moment + RECORD_MS := Nat.le_of_not_lt soon
  obtain ⟨first, last, rfl⟩ := List.append_of_mem earlier
  obtain ⟨different, startedAt, later⟩ := run.begins_after split keyed sameKey
  obtain ⟨middle, rest, rfl⟩ := List.append_of_mem later
  obtain ⟨-, asked, reply, looked, missed⟩ := run.success_missed split keyed
  have ordered : asked ≤ time :=
    (kept_chronicle run.reached).timely.ordered _ _ _ split _ looked
  have start : p.snapshot.trace =
      (first ++ ⟨other, moment, .marked (.inl (.settled kind j (.ok value)))⟩ :: middle) ++
        ⟨tid, startedAt, .started (.inl (.execute i))⟩ :: (rest ++
          ⟨tid, time, .marked (.inl (.settled adapter i (.ok data)))⟩ :: after) := by
    rw [split]
    simp only [List.append_assoc, List.cons_append]
  have inRest : ⟨tid, asked, .answered (.inl (.cache (.get (InboundIdempotencyService.cacheKeyOf
      (wiring.textHash rawKey))))) reply⟩ ∈ rest := by
    rw [← List.cons_append, ← List.append_assoc] at looked
    rcases List.mem_append.mp looked with early | late
    · exact absurd rfl (run.reached.start_first start early)
    · rcases List.mem_cons.mp late with same | inside
      · cases same
      · exact inside
  obtain ⟨between, tail, rfl⟩ := List.append_of_mem inRest
  have lookup : p.snapshot.trace =
      (first ++ ⟨other, moment, .marked (.inl (.settled kind j (.ok value)))⟩ :: middle) ++
        ⟨tid, startedAt, .started (.inl (.execute i))⟩ :: between ++
          ⟨tid, asked, .answered (.inl (.cache (.get (InboundIdempotencyService.cacheKeyOf
            (wiring.textHash rawKey))))) reply⟩ :: (tail ++
              ⟨tid, time, .marked (.inl (.settled adapter i (.ok data)))⟩ :: after) := by
    rw [split]
    simp only [List.append_assoc, List.cons_append]
  have hit := run.hit_of_success lookup keyed sameKey
    (List.mem_append_right _ List.mem_cons_self) (ordered.trans recent)
  cases missed.symm.trans hit

/-- What a call hits is the result of the same operation, from before it began. -/
theorem KeptRun.record_own (run : KeptRun wiring world p) {front middle : RegistryTrace}
    {began asked : Nat} {reply : Reply JsValue}
    (split : p.snapshot.trace = front ++ ⟨tid, began, .started (.inl (.execute i))⟩ :: middle ++
      ⟨tid, asked, .answered (.inl (.cache (.get (InboundIdempotencyService.cacheKeyOf
        (wiring.textHash rawKey))))) reply⟩ :: after)
    (keyed : keyOf i = some rawKey) (present : (reply.getD .null).isNullish = false)
    (unsettled : ∀ earlier ∈ front ++ ⟨tid, began, .started (.inl (.execute i))⟩ :: middle,
      earlier.tid = tid → settledResult earlier = none) :
    ∃ early writer late value adapter j settledAt,
      front ++ ⟨tid, began, .started (.inl (.execute i))⟩ :: middle = early ++ writer :: late ∧
      LastRecord wiring (wiring.textHash rawKey) early writer late value ∧
      reply = .ok value ∧ keyOf j = some rawKey ∧ j.portName = i.portName ∧
      j.method = i.method ∧
      ⟨writer.tid, settledAt, .marked (.inl (.settled adapter j (.ok value)))⟩ ∈ front := by
  obtain ⟨early, writer, late, value, same, last, found⟩ := run.record_of_hit split present
  have start := split
  rw [List.append_assoc, List.cons_append] at start
  have begun : p.snapshot.Saw tid (.started (.inl (.execute i))) := ⟨began, by rw [start]; simp⟩
  have part := split
  rw [same] at part
  obtain ⟨-, stored, adapter, j, otherKey, otherKeyed, hashes, settledAt, seen⟩ :=
    run.record_data begun keyed part last
  rw [stored] at found
  have inside : ⟨writer.tid, settledAt, .marked (.inl (.settled adapter j (.ok value)))⟩ ∈
      front ++ ⟨tid, began, .started (.inl (.execute i))⟩ :: middle := by
    rw [same]
    exact List.mem_append_left _ seen
  have different : writer.tid ≠ tid := by
    intro own
    have none_ := unsettled _ inside own
    cases none_
  obtain ⟨first, second, rest⟩ := List.append_of_mem inside
  have whole := split
  rw [rest, List.append_assoc, List.cons_append] at whole
  obtain ⟨startedAt, started⟩ := run.success_call whole otherKeyed
  have startInside : ⟨writer.tid, startedAt, .started (.inl (.execute j))⟩ ∈
      front ++ ⟨tid, began, .started (.inl (.execute i))⟩ :: middle := by
    rw [rest]
    exact List.mem_append_left _ started
  rcases List.mem_append.mp startInside with inFront | inRest
  · obtain ⟨keys, ports, methods, ended, result, finished⟩ :=
      run.started_apart start keyed inFront otherKeyed hashes.symm
    subst keys
    refine ⟨early, writer, late, value, adapter, j, settledAt, same, last, found, otherKeyed, ports,
      methods, ?_⟩
    rcases List.mem_append.mp inside with settledFront | settledRest
    · exact settledFront
    · -- after its end the call would not have succeeded
      exfalso
      obtain ⟨between, back, shape⟩ := List.append_of_mem settledRest
      have later : p.snapshot.trace = (front ++ between) ++
          ⟨writer.tid, settledAt, .marked (.inl (.settled adapter j (.ok value)))⟩ :: (back ++
            ⟨tid, asked, .answered (.inl (.cache (.get (InboundIdempotencyService.cacheKeyOf
              (wiring.textHash rawKey))))) reply⟩ :: after) := by
        rw [split, shape]
        simp only [List.append_assoc, List.cons_append]
      exact run.reached.end_last later (List.mem_append_left _ finished)
  · rcases List.mem_cons.mp inRest with equal | inMiddle
    · cases equal
      exact absurd rfl different
    · -- the other call would have begun while this one was under way
      exfalso
      obtain ⟨between, back, rfl⟩ := List.append_of_mem inMiddle
      have later : p.snapshot.trace =
          (front ++ ⟨tid, began, .started (.inl (.execute i))⟩ :: between) ++
            ⟨writer.tid, startedAt, .started (.inl (.execute j))⟩ :: (back ++
              ⟨tid, asked, .answered (.inl (.cache (.get (InboundIdempotencyService.cacheKeyOf
                (wiring.textHash rawKey))))) reply⟩ :: after) := by
        rw [split]
        simp only [List.append_assoc, List.cons_append]
      obtain ⟨-, -, -, ended, result, finished⟩ := run.started_apart later otherKeyed
        (List.mem_append_right _ List.mem_cons_self) keyed hashes
      have before : ⟨tid, ended, .finished (.inl (.execute i)) result⟩ ∈
          front ++ ⟨tid, began, .started (.inl (.execute i))⟩ :: (between ++
            ⟨writer.tid, startedAt, .started (.inl (.execute j))⟩ :: back) := by
        rcases List.mem_append.mp finished with inFront | inBetween
        · exact List.mem_append_left _ inFront
        · rcases List.mem_cons.mp inBetween with equal | member
          · cases equal
          · exact List.mem_append_right _ (List.mem_cons_of_mem _ (List.mem_append_left _ member))
      exact run.reached.end_last split before

/-- What a call hits is the latest success, when that is recent. -/
theorem KeptRun.hits_latest (run : KeptRun wiring world p) {front middle : RegistryTrace}
    {began asked settledAt : Nat} {adapter : AdapterKind} {value : JsValue} {reply : Reply JsValue}
    (split : p.snapshot.trace = front ++ ⟨tid, began, .started (.inl (.execute i))⟩ :: middle ++
      ⟨tid, asked, .answered (.inl (.cache (.get (InboundIdempotencyService.cacheKeyOf
        (wiring.textHash rawKey))))) reply⟩ :: after)
    (keyed : keyOf i = some rawKey) (sameKey : keyOf j = some rawKey)
    (success : ⟨other, settledAt, .marked (.inl (.settled adapter j (.ok value)))⟩ ∈ front)
    (recent : asked ≤ settledAt + RECORD_MS)
    (unsettled : ∀ earlier ∈ front ++ ⟨tid, began, .started (.inl (.execute i))⟩ :: middle,
      earlier.tid = tid → settledResult earlier = none) : reply = .ok value := by
  have present := run.hit_of_success split keyed sameKey success recent
  obtain ⟨early, writer, late, found, kind, k, foundAt, same, last, answered, foundKey, -, -,
    inFront⟩ := run.record_own split keyed present unsettled
  have start := split
  rw [List.append_assoc, List.cons_append] at start
  suffices equal : found = value by rw [answered, equal]
  obtain ⟨ended, result, finished, -, noted, there, own, -, touched⟩ :=
    run.recorded_before start keyed sameKey success
  have whole := split
  rw [same, List.append_assoc, List.cons_append] at whole
  by_cases thread : writer.tid = other
  · obtain ⟨first, rest, shape⟩ := List.append_of_mem success
    obtain ⟨second, back, other⟩ := List.append_of_mem inFront
    have one := start
    rw [shape, List.append_assoc, List.cons_append] at one
    have two := start
    rw [other, List.append_assoc, List.cons_append, thread] at two
    obtain ⟨oneAt, oneMember⟩ := run.success_call one sameKey
    obtain ⟨twoAt, twoMember⟩ := run.success_call two foundKey
    cases run.reached.started_unique ⟨oneAt, by rw [one]; exact List.mem_append_left _ oneMember⟩
      ⟨twoAt, by rw [two]; exact List.mem_append_left _ twoMember⟩
    exact (run.success_unique two sameKey one).2
  · obtain ⟨first, rest, rfl⟩ := List.append_of_mem success
    rcases List.mem_append.mp inFront with before | behind
    · -- the earlier success was recorded before the call of the later one began
      exfalso
      obtain ⟨far, near, rfl⟩ := List.append_of_mem before
      have ordered : p.snapshot.trace =
          far ++ ⟨writer.tid, foundAt, .marked (.inl (.settled kind k (.ok found)))⟩ :: near ++
            ⟨other, settledAt, .marked (.inl (.settled adapter j (.ok value)))⟩ :: (rest ++
              ⟨tid, began, .started (.inl (.execute i))⟩ :: (middle ++
                ⟨tid, asked, .answered (.inl (.cache (.get (InboundIdempotencyService.cacheKeyOf
                  (wiring.textHash rawKey))))) reply⟩ :: after)) := by
        rw [split]
        simp only [List.append_assoc, List.cons_append]
      obtain ⟨-, startedAt, later⟩ := run.begins_after ordered sameKey foundKey
      obtain ⟨between, back, rfl⟩ := List.append_of_mem later
      have begins : p.snapshot.trace =
          (far ++ ⟨writer.tid, foundAt, .marked (.inl (.settled kind k (.ok found)))⟩ :: between) ++
            ⟨other, startedAt, .started (.inl (.execute j))⟩ :: (back ++
              ⟨other, settledAt, .marked (.inl (.settled adapter j (.ok value)))⟩ :: (rest ++
                ⟨tid, began, .started (.inl (.execute i))⟩ :: (middle ++
                  ⟨tid, asked, .answered (.inl (.cache (.get (InboundIdempotencyService.cacheKeyOf
                    (wiring.textHash rawKey))))) reply⟩ :: after))) := by
        rw [split]
        simp only [List.append_assoc, List.cons_append]
      obtain ⟨endedAt, outcome, gone, -⟩ := run.recorded_before begins sameKey foundKey
        (List.mem_append_right _ List.mem_cons_self)
      obtain ⟨front, tail, shape⟩ := List.append_of_mem gone
      have ends := begins
      rw [shape, List.append_assoc, List.cons_append] at ends
      rcases split_order (whole.symm.trans ends) with ⟨-, equal⟩ | ⟨part, equal⟩ | ⟨part, equal⟩
      · obtain ⟨first, event⟩ := last.event
        rw [equal] at event
        cases event
      · have inside : noted ∈ early ++ writer :: late := by
          rw [← same]
          exact List.mem_append_left _ there
        rcases List.mem_append.mp inside with old | new
        · have member : noted ∈ far ++
              ⟨writer.tid, foundAt, .marked (.inl (.settled kind k (.ok found)))⟩ :: between := by
            rw [shape, equal, List.append_assoc]
            exact List.mem_append_left _ old
          exact run.reached.start_first begins member own
        · rcases List.mem_cons.mp new with rfl | silent
          · exact thread own
          · exact touched (last.silent noted silent)
      · apply run.reached.end_last whole
        rw [equal]
        exact List.mem_append_right _ List.mem_cons_self
    · rcases List.mem_cons.mp behind with equal | inRest
      · cases equal
        rfl
      · exfalso
        obtain ⟨between, back, rfl⟩ := List.append_of_mem inRest
        have later : p.snapshot.trace =
            (first ++ ⟨other, settledAt, .marked (.inl (.settled adapter j (.ok value)))⟩ ::
              between) ++ ⟨writer.tid, foundAt, .marked (.inl (.settled kind k (.ok found)))⟩ ::
                (back ++ ⟨tid, began, .started (.inl (.execute i))⟩ :: (middle ++
                  ⟨tid, asked, .answered (.inl (.cache (.get (InboundIdempotencyService.cacheKeyOf
                    (wiring.textHash rawKey))))) reply⟩ :: after)) := by
          rw [split]
          simp only [List.append_assoc, List.cons_append]
        have apart := run.succeeds_once later foundKey sameKey
          (List.mem_append_right _ List.mem_cons_self)
        have past : foundAt ≤ asked := (kept_chronicle run.reached).timely.ordered _ _ _ split
          _ (List.mem_append_left _ inFront)
        omega

theorem keyOf_of_shares {i j : Invocation} (shares : sharesKey i j = true) :
    keyOf j = keyOf i ∧ j.portName = i.portName := by
  simp only [sharesKey, Bool.and_eq_true, decide_eq_true_eq] at shares
  exact ⟨by rw [keyOf, keyOf, shares.2], shares.1⟩

theorem recentSuccess_eq_some {now : Nat} {entry : RegistryEntry} {data : JsValue}
    (recent : recentSuccess i now entry = some data) :
    ∃ j adapter, sharesKey i j = true ∧ now ≤ entry.time + RECORD_MS ∧
      entry.event = .marked (.inl (.settled adapter j (.ok data))) := by
  obtain ⟨tid, time, event⟩ := entry
  unfold recentSuccess at recent
  split at recent
  · rename_i j found success
    obtain ⟨⟨shares, soon⟩, same⟩ := Option.ite_none_right_eq_some.mp recent
    cases same
    unfold settledResult at success
    split at success
    · rename_i adapter k outcome same
      cases success
      exact ⟨j, adapter, shares, soon, same⟩
    · cases success
  · cases recent

/-- What a call looked up lies between its start and its end. -/
theorem KeptRun.lookup_inside (run : KeptRun wiring world p) {front rest : RegistryTrace}
    {began asked : Nat} {reply : Reply JsValue} {key : String}
    (split : p.snapshot.trace = (front ++ ⟨tid, began, .started (.inl (.execute i))⟩ :: rest) ++ after)
    (looked : ⟨tid, asked, .answered (.inl (.cache (.get key))) reply⟩ ∈
      front ++ ⟨tid, began, .started (.inl (.execute i))⟩ :: rest) :
    ∃ middle tail,
      rest = middle ++ ⟨tid, asked, .answered (.inl (.cache (.get key))) reply⟩ :: tail := by
  rw [List.append_assoc, List.cons_append] at split
  rcases List.mem_append.mp looked with early | late
  · exact absurd rfl (run.reached.start_first split early)
  · rcases List.mem_cons.mp late with same | inside
    · cases same
    · exact List.append_of_mem inside

/-- Nothing before its start belongs to a call. -/
theorem takeWhile_start (reached : Reachable wiring.keptRegistry world p)
    {front rest : RegistryTrace}
    {began : Nat} {call : (portSignature registryOnly).Call}
    (split : p.snapshot.trace = front ++ ⟨tid, began, .started call⟩ :: rest ++ after) :
    (front ++ ⟨tid, began, .started call⟩ :: rest).takeWhile (fun earlier => earlier.tid ≠ tid) =
      front := by
  rw [List.append_assoc, List.cons_append] at split
  rw [List.takeWhile_append_of_pos fun earlier member =>
    decide_eq_true (reached.start_first split member), List.takeWhile_cons_of_neg (by simp),
    List.append_nil]

/-- A call that ends is answered with the recent successes from before it began. -/
theorem KeptRun.returns_recent (run : KeptRun wiring world p) {front rest : RegistryTrace}
    {began settledAt : Nat} {adapter : AdapterKind} {value : JsValue}
    (split : p.snapshot.trace = (front ++ ⟨tid, began, .started (.inl (.execute i))⟩ :: rest) ++
      ⟨tid, time, .finished (.inl (.execute i)) result⟩ :: after)
    (keyed : keyOf i = some rawKey) (sameKey : keyOf j = some rawKey)
    (samePort : j.portName = i.portName)
    (success : ⟨other, settledAt, .marked (.inl (.settled adapter j (.ok value)))⟩ ∈ front)
    (recent : time ≤ settledAt + RECORD_MS) : answersWith value result = true := by
  have ended := run.reached.observed (run.body keyed) split
  rcases ended with ⟨refused, -⟩ | ⟨answer, rfl, ends⟩
  · have absent := (run.refused_iff split keyed).mpr refused
    have start := split
    rw [List.append_assoc, List.cons_append] at start
    obtain ⟨endedAt, outcome, finished, registered, -⟩ :=
      run.recorded_before start keyed sameKey success
    obtain ⟨before, later, rfl⟩ := List.append_of_mem finished
    rw [List.append_assoc, List.cons_append] at start
    rw [← samePort] at absent
    exact absurd ((run.refused_iff start sameKey).mp absent) (registered _)
  · obtain ⟨value', looked⟩ := ends.looked
    obtain ⟨⟨own, asked, event⟩, member, reply, same, got⟩ :=
      found_of_observation (fun seen => seen.looked = some value') (fun _ _ => looked_of_handle)
        nofun looked
    obtain ⟨there, rfl⟩ := mem_ownEntries.mp member
    cases same
    obtain ⟨middle, tail, rfl⟩ := run.lookup_inside split there
    have lookup : p.snapshot.trace = front ++ ⟨own, began, .started (.inl (.execute i))⟩ :: middle ++
        ⟨own, asked, .answered (.inl (.cache (.get (InboundIdempotencyService.cacheKeyOf
          (wiring.textHash rawKey))))) reply⟩ :: (tail ++
            ⟨own, time, .finished (.inl (.execute i)) (answer.map .port)⟩ :: after) := by
      rw [split]
      simp only [List.append_assoc, List.cons_append]
    have past : asked ≤ time := (kept_chronicle run.reached).timely.ordered _ _ _ split _ there
    have soon := past.trans recent
    have present := run.hit_of_success lookup keyed sameKey success soon
    rw [got] at present
    obtain ⟨unsucceeded, reached, rfl, data⟩ := ends.hit value' looked present
    have unsettled : ∀ earlier ∈ front ++ ⟨own, began, .started (.inl (.execute i))⟩ :: middle,
        earlier.tid = own → settledResult earlier = none := by
      intro earlier inside mine
      by_contra settled
      have inBefore : earlier ∈ front ++ ⟨own, began, .started (.inl (.execute i))⟩ :: (middle ++
          ⟨own, asked, .answered (.inl (.cache (.get (InboundIdempotencyService.cacheKeyOf
            (wiring.textHash rawKey))))) reply⟩ :: tail) := by
        rw [← List.cons_append, ← List.append_assoc]
        exact List.mem_append_left _ inside
      have seen := succeeded_of_member i (InboundIdempotencyService.cacheKeyOf
        (wiring.textHash rawKey)) (mem_ownEntries.mpr ⟨inBefore, mine⟩) settled
      cases seen.symm.trans (congrArg Option.isSome unsucceeded)
    have latest := run.hits_latest lookup keyed sameKey success soon unsettled
    rw [latest] at got
    have got : value = value' := got
    exact decide_eq_true (data.trans got.symm)

/-- A reply from a record carries what the same operation came back with. -/
theorem KeptRun.replies_own (run : KeptRun wiring world p) {answer : PortResult}
    (split : p.snapshot.trace =
      before ++ ⟨tid, time, .finished (.inl (.execute i)) (.ok (.port answer))⟩ :: after)
    (keyed : keyOf i = some rawKey) (replayed : answer.fromIdempotency = true) :
    ∃ entry ∈ before, ∃ j adapter, sharesKey i j = true ∧ j.method = i.method ∧
      entry.event = .marked (.inl (.settled adapter j (.ok answer.data))) := by
  have has : i.idempotencyKey = some rawKey := (Option.filter_eq_some_iff.mp keyed).1
  have began := run.reached.finished_began split
  have begun : p.snapshot.Saw tid (.started (.inl (.execute i))) := by
    obtain ⟨start, first⟩ := began
    exact ⟨start, by rw [split]; exact List.mem_append_left _ first⟩
  have law : CallOutcome wiring.kept tid before (.execute i) (.ok (.port answer)) :=
    accounted_of_asks rfl noService_asks run.reached before _ after split
  obtain ⟨result, same, outcome⟩ := law
  cases same
  cases outcome with
  | cached entry _ readOnly seen present same healthy executed =>
      cases executed.symm.trans replayed
  | fresh adapter _ seen healthy executed => cases executed.symm.trans replayed
  | degraded _ seen ill executed => cases executed.symm.trans replayed
  | recorded other _ otherKeyed seen present healthy _ =>
      cases has.symm.trans otherKeyed
      have ended := run.reached.observed (run.body keyed) split
      rcases ended with ⟨refused, -⟩ | ⟨ending, same, ends⟩
      · cases refused
      · cases succeeded : (observation (handle i (InboundIdempotencyService.cacheKeyOf
            (wiring.textHash rawKey))) .nothing (ownEntries tid before)).succeeded with
        | some data =>
            obtain ⟨-, reply, rfl, carried⟩ := ends.recorded data succeeded
            cases same
            obtain ⟨entry, member, adapter, j, event⟩ :=
              found_of_observation (fun seen => seen.succeeded = some data)
                (fun _ _ => succeeded_of_handle) nofun succeeded
            obtain ⟨inside, mine⟩ := mem_ownEntries.mp member
            obtain ⟨own, settledAt, happened⟩ := entry
            dsimp only at event mine
            subst event mine
            have settled : p.snapshot.Saw own (.marked (.inl (.settled adapter j (.ok data)))) :=
              ⟨settledAt, by rw [split]; exact List.mem_append_left _ inside⟩
            cases run.settled_own begun settled
            refine ⟨_, inside, i, adapter, ?_, rfl, ?_⟩
            · simp [sharesKey]
            · rw [carried]
        | none =>
            obtain ⟨startAt, start⟩ := began
            obtain ⟨front, rest, rfl⟩ := List.append_of_mem start
            obtain ⟨asked, looked⟩ := seen
            obtain ⟨middle, tail, rfl⟩ := run.lookup_inside split looked
            have lookup : p.snapshot.trace =
                front ++ ⟨tid, startAt, .started (.inl (.execute i))⟩ :: middle ++
                  ⟨tid, asked, .answered (.inl (.cache (.get (InboundIdempotencyService.cacheKeyOf
                    (wiring.textHash rawKey))))) (Reply.ok answer.data)⟩ :: (tail ++
                      ⟨tid, time, .finished (.inl (.execute i)) (.ok (.port answer))⟩ :: after) := by
              rw [split]
              simp only [List.append_assoc, List.cons_append]
              rfl
            have unsettled : ∀ earlier ∈ front ++
                ⟨tid, startAt, .started (.inl (.execute i))⟩ :: middle,
                earlier.tid = tid → settledResult earlier = none := by
              intro earlier inside mine
              by_contra settled
              have inBefore : earlier ∈ front ++
                  ⟨tid, startAt, .started (.inl (.execute i))⟩ :: (middle ++
                    ⟨tid, asked, .answered (.inl (.cache (.get
                      (InboundIdempotencyService.buildCacheKey wiring.kept rawKey))))
                        (Reply.ok answer.data)⟩ :: tail) := by
                rw [← List.cons_append, ← List.append_assoc]
                exact List.mem_append_left _ inside
              have seen := succeeded_of_member i (InboundIdempotencyService.cacheKeyOf
                (wiring.textHash rawKey)) (mem_ownEntries.mpr ⟨inBefore, mine⟩) settled
              cases seen.symm.trans (congrArg Option.isSome succeeded)
            obtain ⟨early, writer, late, value, adapter, j, settledAt, -, -, found, otherKeyed, ports,
              methods, inFront⟩ := run.record_own lookup keyed present unsettled
            have same : answer.data = value := Reply.ok.inj found
            have otherHas : j.idempotencyKey = some rawKey :=
              (Option.filter_eq_some_iff.mp otherKeyed).1
            refine ⟨_, List.mem_append_left _ inFront, j, adapter, ?_, methods, ?_⟩
            · simp [sharesKey, ports, otherHas, has]
            · rw [same]

end Calls

end Runs

/-- Over a cache that works, calls of one key that are kept apart reach their adapter once a day,
and are answered with what it came back with. -/
theorem executed_once (wiring : Wiring) (world : World registryOnly)
    {p : Pool (portSignature registryOnly) Resolution}
    (reached : Reachable wiring.keptRegistry world p) (fresh : NoRecords wiring world)
    (wired : wiring.idempotencyService = true)
    (apart : Passes (keysKeptApart wiring) p.snapshot.trace) :
    Passes executedOnce p.snapshot.trace := by
  have run : KeptRun wiring world p := ⟨reached, fresh, wired, apart⟩
  rintro before ⟨tid, time, event⟩ after split
  unfold executedOnce
  split
  · rename_i adapter i data same
    cases same
    cases keyed : keyOf i with
    | none => rfl
    | some rawKey =>
        rw [Option.isNone_some, Bool.false_or, List.all_eq_true]
        rintro ⟨other, moment, event⟩ member
        cases recent : recentSuccess i time ⟨other, moment, event⟩ with
        | none => rfl
        | some value =>
            obtain ⟨j, kind, shares, soon, same⟩ := recentSuccess_eq_some recent
            cases same
            have once := run.succeeds_once split keyed ((keyOf_of_shares shares).1.trans keyed) member
            have soon : time ≤ moment + RECORD_MS := soon
            omega
  · rename_i i result same
    cases same
    cases keyed : keyOf i with
    | none => rfl
    | some rawKey =>
        rw [Option.isNone_some, Bool.false_or, Bool.and_eq_true]
        constructor
        · obtain ⟨startAt, start⟩ := reached.finished_began split
          obtain ⟨front, rest, rfl⟩ := List.append_of_mem start
          rw [takeWhile_start reached split, List.all_eq_true]
          rintro ⟨other, moment, event⟩ member
          cases recent : recentSuccess i time ⟨other, moment, event⟩ with
          | none => rfl
          | some value =>
              obtain ⟨j, kind, shares, soon, same⟩ := recentSuccess_eq_some recent
              cases same
              obtain ⟨keys, ports⟩ := keyOf_of_shares shares
              rw [Option.all_some]
              exact run.returns_recent split keyed (keys.trans keyed) ports member soon
        · split
          · rename_i answer
            cases replayed : answer.fromIdempotency with
            | false => rfl
            | true =>
                rw [Bool.not_true, Bool.false_or, List.any_eq_true]
                obtain ⟨⟨own, moment, event⟩, member, j, adapter, shares, method, same⟩ :=
                  run.replies_own split keyed replayed
                cases same
                refine ⟨_, member, ?_⟩
                simp [settledResult, shares, method]
          · rfl
  · rfl

/-! ### Two overlapping calls -/

/-- SHA-256 of the key below and of no text. -/
def keptWiring : Wiring :=
  .configured true
    (fun text => if text = "" then ⟨"e3b0c44298fc1c14", isHex_empty⟩
      else ⟨"7b409f932d2c88e9", isHex_key⟩)
    fun _ => ⟨"e3b0c44298fc1c14", isHex_empty⟩

/-- Both calls of one key miss before either has recorded its result. -/
def overlappingDispatches : List (Action (portSignature registryOnly) PortExternal) :=
  [.call (.inl (.execute (dispatch "KH-1" (some "evt-1")))), .resume 0,
    .call (.inl (.execute (dispatch "KH-1" (some "evt-1")))), .resume 1,
    .answer 0 (.inl (.cache (.get recordKey))) (Reply.ok .null), .resume 0,
    .answer 1 (.inl (.cache (.get recordKey))) (Reply.ok .null), .resume 1,
    .answer 0 (.inl (adapterOf (dispatch "KH-1" (some "evt-1")))) (Except.ok (sent "KH-1")),
    .resume 0,
    .answer 1 (.inl (adapterOf (dispatch "KH-1" (some "evt-1")))) (Except.ok (sent "KH-1")),
    .resume 1]

/-- The notification is sent twice. -/
theorem executed_twice :
    ∃ p, Reachable keptWiring.keptRegistry notificationWorld p ∧
      ¬ Passes executedOnce p.snapshot.trace :=
  ⟨_, reachable_run keptWiring.keptRegistry notificationWorld overlappingDispatches
    (by decide +kernel), by decide +kernel⟩

theorem executed_once_retried :
    ∃ p, Reachable keptWiring.keptRegistry notificationWorld p ∧
      p.snapshot.trace.any (recordHit keptWiring 2 (dispatch "KH-1" (some "evt-1"))) = true ∧
      Passes executedOnce p.snapshot.trace :=
  ⟨_, reachable_run keptWiring.keptRegistry notificationWorld retriedDispatch
    (by decide +kernel), by decide +kernel,
    executed_once keptWiring notificationWorld
      (reachable_run keptWiring.keptRegistry notificationWorld retriedDispatch
        (by decide +kernel))
      (fun _ => rfl) rfl (by decide +kernel)⟩

end SelfService
