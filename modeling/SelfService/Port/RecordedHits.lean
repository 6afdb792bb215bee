/-
What a check may hit.

Claims leave their marker under the key of the result.  As long as nobody looks
while a marker is the last thing written there, whatever a check or an idempotent
call finds was recorded by a store for the same raw key.
-/

import SelfService.Port.InboundIdempotency

namespace SelfService

open Data EventLoop InboundIdempotencyService

/-! ### Hits -/

/-- The value that the entry records for the raw key. -/
def recordOf (wiring : Wiring) (rawKey : String) (trace : InboundTrace) (entry : InboundEntry) :
    Option JsValue :=
  match entry.event with
  | .answered (.inl (.cache (.set key given _))) reply =>
      if ownerKey trace entry.tid = some rawKey ∧ reply.applied ∧
        key = cacheKeyOf (wiring.textHash rawKey) then some (wiring.backend.stored given)
      else none
  | _ => none

/-- A check hits, and a call is answered without its adapter, only by what was recorded for
the same raw key. -/
def hitRecorded (wiring : Wiring) (before : InboundTrace) (entry : InboundEntry) : Bool :=
  match entry.event with
  | .finished (.inr (.check rawKey)) result =>
      result = .ok (.value (checkResult .null)) ||
        before.any fun earlier => (recordOf wiring rawKey before earlier).any fun value =>
          result = .ok (.value (checkResult value))
  | .finished (.inl (.execute i)) (.ok (.port result)) =>
      !result.fromIdempotency || i.idempotencyKey.any fun rawKey =>
        before.any fun earlier => recordOf wiring rawKey before earlier = some result.data
  | _ => true

/-- How an event leaves the record of a hash: with a marker that is alive `now`, or without. -/
def markOf (hash : ShortHash) (now : Nat) (entry : InboundEntry) : Option Bool :=
  match entry.event with
  | .answered (.inl (.cache (.set key _ _))) reply =>
      if key = cacheKeyOf hash ∧ reply.applied then some false else none
  | .answered (.inl (.cache (.setIfNotExist key _ _))) reply =>
      if key = cacheKeyOf hash then
        match reply with
        | .ok true => some (decide (now ≤ entry.time + DEFAULT_TTL * 1000))
        | .ok false => none
        | .failed applied _ => if applied then some true else none
      else none
  | _ => none

/-- The last that was written for the hash is a claim's marker. -/
def marked (hash : ShortHash) (now : Nat) (trace : InboundTrace) : Bool :=
  (latest (markOf hash now) trace).getD false

/-- Nobody looks a raw key up while a marker is there. -/
def unmarked (wiring : Wiring) (before : InboundTrace) (entry : InboundEntry) : Bool :=
  match entry.event with
  | .answered (.inl (.cache (.get key))) _ =>
      (ownerKey before entry.tid).all fun rawKey =>
        key ≠ cacheKeyOf (wiring.textHash rawKey) ||
          !marked (wiring.textHash rawKey) entry.time before
  | _ => true

section Hits

variable {wiring : Wiring} {environment : CacheEnvironment} {world : World inbound}
  {p : InboundPool}

theorem ownerKey_mono {early late : InboundTrace} (grown : early <+: late) {tid : Nat}
    {rawKey : String} (owns : ownerKey early tid = some rawKey) :
    ownerKey late tid = some rawKey := by
  obtain ⟨rest, rfl⟩ := grown
  rw [ownerKey, List.findSome?_append, ← ownerKey, owns, Option.some_or]

theorem recordOf_mono {early late : InboundTrace} (grown : early <+: late) {rawKey : String}
    {entry : InboundEntry} {value : JsValue}
    (records : recordOf wiring rawKey early entry = some value) :
    recordOf wiring rawKey late entry = some value := by
  obtain ⟨tid, time, event⟩ := entry
  unfold recordOf at records
  split at records
  · rename_i key given ttl reply same
    cases same
    obtain ⟨⟨owns, written⟩, same⟩ := Option.ite_none_right_eq_some.mp records
    exact (if_pos ⟨ownerKey_mono grown owns, written⟩).trans same
  · cases records

/-- What a key's touch leaves aside leaves its marker, or may have put one there. -/
theorem markOf_untouched {hash : ShortHash} {now : Nat} {entry : InboundEntry}
    (silent : touchOf (inboundDeployment wiring environment)
      (getFullKey wiring.backend.options (cacheKeyOf hash)) entry = none) :
    markOf hash now entry = none ∨ markOf hash now entry = some true := by
  obtain ⟨tid, time, event⟩ := entry
  unfold markOf
  split
  · rename_i key given ttl reply event
    cases event
    left
    apply if_neg
    rintro ⟨rfl, applied⟩
    have touched : Backend.touch wiring.backend _ time (.set (cacheKeyOf hash) given ttl) reply =
        none := silent
    rw [Backend.touch, if_pos ⟨applied, rfl⟩] at touched
    cases touched
  · rename_i key given ttl reply event
    cases event
    split
    · rename_i same
      subst same
      split
      · have touched : Backend.touch wiring.backend _ time
            (.setIfNotExist (cacheKeyOf hash) given ttl) (.ok true) = none := silent
        rw [Backend.touch, if_pos ⟨rfl, rfl⟩] at touched
        cases touched
      · exact Or.inl rfl
      · rename_i applied reason
        cases applied with
        | true => exact Or.inr rfl
        | false => exact Or.inl rfl
    · exact Or.inl rfl
  · exact Or.inl rfl

/-- Without a marker every claim of the record is accounted for. -/
theorem unblurred_of_unmarked {hash : ShortHash} {now : Nat} {trace : InboundTrace}
    (plain : marked hash now trace = false) : blurred (inboundDeployment wiring environment)
      (getFullKey wiring.backend.options (cacheKeyOf hash)) trace = false := by
  unfold blurred
  cases last : latest _ trace with
  | none => rfl
  | some blur =>
    cases blur with
    | false => rfl
    | true =>
      obtain ⟨early, entry, late, rfl, said, silent⟩ := split_of_latest last
      have unclear : markOf hash now entry = some true := by
        obtain ⟨tid, time, event⟩ := entry
        unfold blurOf at said
        split at said
        · rename_i command answer same
          cases same
          split at said
          · rename_i blurs
            obtain ⟨unclear, written⟩ := Bool.and_eq_true_iff.mp blurs
            cases command with
            | setIfNotExist key value ttl =>
              cases answer with
              | ok won => cases unclear
              | failed applied reason =>
                have same : key = cacheKeyOf hash := getFullKey_injective _
                  (of_decide_eq_true (Option.any_some.symm.trans written))
                have effect : applied = true := unclear
                simp [markOf, same, effect]
            | _ => cases unclear
          · obtain ⟨left, -, wrong⟩ := Option.map_eq_some_iff.mp said
            cases wrong
        · cases said
      have there : latest (markOf hash now) (early ++ entry :: late) = some true := by
        apply latest_of_split early late unclear
        intro later member
        have blurless := silent later member
        have untouched : touchOf (inboundDeployment wiring environment)
            (getFullKey wiring.backend.options (cacheKeyOf hash)) later = none := by
          unfold blurOf at blurless
          unfold touchOf
          split at blurless
          · split at blurless
            · cases blurless
            · exact Option.map_eq_none_iff.mp blurless
          · rfl
        exact markOf_untouched untouched
      rw [marked, there] at plain
      cases plain

/-- A lookup that hits without a marker there finds what was recorded for its raw key. -/
theorem recorded_of_lookup (fresh : Unrecorded wiring world)
    (reached : Reachable (inboundSystem wiring environment) world p)
    (apart : keysApart wiring p.snapshot.trace = true)
    (lookups : Passes (unmarked wiring) p.snapshot.trace) {before after : InboundTrace}
    {tid time : Nat} {rawKey : String} {reply : Reply JsValue}
    (split : p.snapshot.trace = before ++ ⟨tid, time, .answered (.inl (.cache
      (.get (cacheKeyOf (wiring.textHash rawKey))))) reply⟩ :: after)
    (own : ownerKey before tid = some rawKey)
    (present : (reply.getD .null).isNullish = false) :
    ∃ earlier ∈ before, recordOf wiring rawKey before earlier = some (reply.getD .null) := by
  have plain : marked (wiring.textHash rawKey) time before = false := by
    have met := lookups before _ after split
    simpa [unmarked, own] using met
  have answered := (inbound_chronicle reached).registers.lookups before _ after split
    (unblurred_of_unmarked plain)
  have found : reply.getD .null ≠ .null := by
    intro absent
    rw [absent] at present
    cases present
  obtain ⟨left, there, alive, same⟩ :=
    held_of_recalled (answered.resolve_left found).symm found
  obtain ⟨early, writer, late, command, answer, value, otherKey, rfl, wrote, writes, rfl, owns,
    hashes, silent⟩ := writer_of_held fresh reached split there
  have owner := ownerKey_mono (List.prefix_append early (writer :: late)) owns
  have sameKey := same_of_apart apart split owner own hashes
  subst sameKey
  refine ⟨writer, by simp, ?_⟩
  obtain ⟨other, moment, event⟩ := writer
  cases wrote
  cases writes with
  | set _ _ _ reply applied =>
    exact (if_pos ⟨owner, applied, rfl⟩).trans (congrArg some same)
  | claimed =>
    have due : markOf (wiring.textHash otherKey) time ⟨other, moment, .answered (.inl (.cache
        (.setIfNotExist (cacheKeyOf (wiring.textHash otherKey)) value (some DEFAULT_TTL))))
        (Reply.ok true)⟩ = some true := by
      have recent := recent_of_alive alive
      simp [markOf, recent]
    have there := latest_of_split early late due fun later member =>
      markOf_untouched (silent later member)
    rw [marked, there] at plain
    cases plain
  | unclear _ _ _ reason =>
    have unclear : markOf (wiring.textHash otherKey) time ⟨other, moment, .answered (.inl (.cache
        (.setIfNotExist (cacheKeyOf (wiring.textHash otherKey)) value (some DEFAULT_TTL))))
        (Reply.failed true reason)⟩ = some true := by
      simp [markOf]
    have there := latest_of_split early late unclear fun later member =>
      markOf_untouched (silent later member)
    rw [marked, there] at plain
    cases plain

/-- What the thread of an entry began with comes before it. -/
theorem began_before (reached : Reachable (inboundSystem wiring environment) world p)
    {before after : InboundTrace} {entry : InboundEntry}
    (split : p.snapshot.trace = before ++ entry :: after)
    (later : ∀ call, entry.event ≠ .started call) {call : PortCall ⊕ InboundCall}
    (began : p.snapshot.Saw entry.tid (.started call)) : Saw before entry.tid (.started call) := by
  rcases reached.started_before split with ⟨other, started⟩ | ⟨other, time, member⟩
  · exact absurd started (later other)
  · have seen : p.snapshot.Saw entry.tid (.started other) := ⟨time, by simp [split, member]⟩
    rw [reached.started_unique began seen]
    exact ⟨time, member⟩

theorem check_recorded (fresh : Unrecorded wiring world)
    (reached : Reachable (inboundSystem wiring environment) world p)
    (apart : keysApart wiring p.snapshot.trace = true)
    (plain : Passes (unmarked wiring) p.snapshot.trace) {before after : InboundTrace}
    {tid time : Nat} {rawKey : String} {result : Except Exn Resolution}
    (split : p.snapshot.trace =
      before ++ ⟨tid, time, .finished (.inr (.check rawKey)) result⟩ :: after) :
    result = .ok (.value (checkResult .null)) ∨ ∃ earlier ∈ before, ∃ value,
      recordOf wiring rawKey before earlier = some value ∧
        result = .ok (.value (checkResult value)) := by
  obtain ⟨began, asked, reply, own, rfl⟩ :=
    reached.lawful_call split (reached.finished_began split) (inbound_lawful _)
  have pair : ownEntries tid before = [_] ++ _ :: [] := own
  obtain ⟨early, late, rfl, first, -⟩ := split_of_own pair
  cases present : (reply.getD .null).isNullish with
  | true =>
    left
    unfold checkResult
    rw [if_pos present]
    rfl
  | false =>
    right
    rw [List.append_assoc, List.cons_append] at split
    have started : Saw early tid (.started (.inr (.check rawKey))) :=
      saw_of_own ⟨began, by rw [first]; exact List.mem_singleton.mpr rfl⟩
    obtain ⟨earlier, member, records⟩ := recorded_of_lookup fresh reached apart plain split
      (ownerKey_of_saw reached split started) present
    refine ⟨earlier, by simp [member], _, recordOf_mono ?_ records, rfl⟩
    exact List.prefix_append early _

theorem execute_recorded (fresh : Unrecorded wiring world)
    (reached : Reachable (inboundSystem wiring environment) world p)
    (apart : keysApart wiring p.snapshot.trace = true)
    (plain : Passes (unmarked wiring) p.snapshot.trace) {before after : InboundTrace}
    {tid time : Nat} {i : Invocation} {result : PortResult}
    (split : p.snapshot.trace =
      before ++ ⟨tid, time, .finished (.inl (.execute i)) (.ok (.port result))⟩ :: after)
    (replayed : result.fromIdempotency = true) :
    ∃ rawKey, i.idempotencyKey = some rawKey ∧
      ∃ earlier ∈ before, recordOf wiring rawKey before earlier = some result.data := by
  obtain ⟨_, same, outcome⟩ := accounted_of_asks rfl (inbound_asks _) reached before _ after split
  cases same
  cases outcome with
  | recorded rawKey _ keyed seen present =>
    refine ⟨rawKey, keyed, ?_⟩
    obtain ⟨asked, member⟩ := seen
    obtain ⟨early, late, rfl⟩ := List.append_of_mem member
    obtain ⟨began, there⟩ := reached.finished_began split
    have seen : p.snapshot.Saw tid (.started (.inl (.execute i))) :=
      ⟨began, by rw [split]; exact List.mem_append_left _ there⟩
    rw [List.append_assoc, List.cons_append] at split
    have owns : ownerKey early tid = some rawKey := by
      rw [ownerKey_of_saw reached split (began_before reached split nofun seen)]
      exact keyed
    obtain ⟨earlier, member, records⟩ :=
      recorded_of_lookup fresh reached apart plain split owns present
    refine ⟨earlier, by simp [member], recordOf_mono ?_ records⟩
    exact List.prefix_append early _
  | cached _ _ _ _ _ _ _ executed =>
    rw [executed] at replayed
    cases replayed
  | fresh _ _ _ _ executed =>
    rw [executed] at replayed
    cases replayed
  | degraded _ _ _ executed =>
    rw [executed] at replayed
    cases replayed

/-- In every run of claims, checks, stores and idempotent calls, over any cache: if nobody looks
a key up while a claim's marker is there, then all that is hit was recorded. -/
theorem hits_recorded (fresh : Unrecorded wiring world)
    (reached : Reachable (inboundSystem wiring environment) world p)
    (apart : keysApart wiring p.snapshot.trace = true)
    (plain : Passes (unmarked wiring) p.snapshot.trace) :
    Passes (hitRecorded wiring) p.snapshot.trace := by
  rintro before ⟨tid, time, event⟩ after split
  unfold hitRecorded
  split
  · rename_i rawKey result same
    cases same
    rcases check_recorded fresh reached apart plain split with miss | ⟨earlier, member, _, records, rfl⟩
    · simp [miss]
    · apply Bool.or_eq_true_iff.mpr (Or.inr (List.any_eq_true.mpr ⟨earlier, member, ?_⟩))
      rw [records, Option.any_some]
      exact decide_eq_true rfl
  · rename_i i result same
    cases same
    cases replayed : result.fromIdempotency with
    | false => rfl
    | true =>
      obtain ⟨rawKey, keyed, earlier, member, records⟩ :=
        execute_recorded fresh reached apart plain split replayed
      rw [keyed, Option.any_some]
      exact List.any_eq_true.mpr ⟨earlier, member, decide_eq_true records⟩
  · rfl

end Hits

/-! ### A payment with the id of a claimed message -/

def paysWith (idempotencyKey : String) : PortCall :=
  .execute ⟨none, "payment", "pay", .obj [], some idempotencyKey⟩

/-- A result is stored, and checked. -/
def storesAndChecks : List InboundMove :=
  takesTurns 0 (.inr (.store "wamid.1" (.str "done"))) 2 ++
    takesTurns 1 (.inr (.check "wamid.1")) 2 ++ takesTurns 2 (.inl (paysWith "wamid.1")) 4

theorem hits_recorded_stored :
    ∃ p, Reachable (inboundSystem inboundWiring .any) inboundWorld p ∧
      p.snapshot.trace.any (fun entry => match entry.event with
        | .finished (.inr (.check _)) result => result = .ok (.value (checkResult (.str "done")))
        | _ => false) = true ∧
      Passes (hitRecorded inboundWiring) p.snapshot.trace := by
  have reached := reachable_play (inboundSystem inboundWiring .any) inboundWorld servesInbound
    storesAndChecks (by decide +kernel)
  exact ⟨_, reached, by decide +kernel, hits_recorded unrecorded_inboundWorld reached
    (by decide +kernel) (by decide +kernel)⟩

/-- A webhook claims its message and pays under the id of the message. -/
def claimsAndPays : List InboundMove :=
  takesTurns 0 (.inr (.claim "wamid.1")) 2 ++ takesTurns 1 (.inl (paysWith "wamid.1")) 4

/-- The payment is answered with the marker, and never reaches its adapter. -/
theorem claim_answered :
    ∃ p, Reachable (inboundSystem inboundWiring .any) inboundWorld p ∧
      ¬ Passes (hitRecorded inboundWiring) p.snapshot.trace ∧
      p.snapshot.trace.any (fun entry => match entry.event with
        | .finished (.inl (.execute _)) (.ok (.port result)) => result.data = .str "claimed"
        | _ => false) = true :=
  exists_reachable _ _ servesInbound claimsAndPays (by decide +kernel)

end SelfService
