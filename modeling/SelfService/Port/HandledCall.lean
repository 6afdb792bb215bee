/-
What a call does with the record under its key.

A call with an idempotency key looks its record up, calls its adapter only on a
miss, and records a result before it returns it.
-/

import SelfService.EventLoop.Play
import SelfService.Port.BreakerGate
import SelfService.Port.PortUpdates
import SelfService.Port.WriteResults

namespace SelfService

open Data EventLoop PortRegistry

/-- The registry over a cache that works. -/
def Wiring.kept (wiring : Wiring) : Deployment registryOnly where
  toWiring := wiring
  adapter := remoteAdapter
  environment := .working wiring.backend

abbrev Wiring.keptRegistry (wiring : Wiring) :
    System (portSignature registryOnly) Resolution PortExternal :=
  portSystem wiring.kept noService

/-! ### One call and the record under its key -/

structure Handled where
  looked : Option JsValue
  succeeded : Option JsValue
  recorded : Bool
  sound : Bool

def Handled.nothing : Handled := ⟨none, none, false, true⟩

/-- A sound call succeeds after a miss and only once, and records its own result. -/
def handle (i : Invocation) (key : String) (seen : Handled) : PortEvent registryOnly → Handled
  | .answered (.inl (.cache (.get asked))) reply =>
      if asked = key then { seen with looked := some (reply.getD .null) } else seen
  | .answered (.inl (.cache (.set asked value _))) _ =>
      if asked = key then
        { seen with
          recorded := true
          sound := seen.sound && decide (seen.succeeded = some value) }
      else seen
  | .marked (.inl (.settled _ j (.ok data))) =>
      { seen with
        succeeded := some data
        sound := seen.sound && decide (j = i) && seen.succeeded.isNone &&
          seen.looked.any JsValue.isNullish }
  | _ => seen

/-- How an idempotent call ends, once its port was found. -/
structure EndsWell (result : Except Exn PortResult) (seen : Handled) : Prop where
  sound : seen.sound = true
  registered : ∀ name, result ≠ .error (.portNotRegistered name)
  looked : ∃ value, seen.looked = some value
  hit : ∀ value, seen.looked = some value → value.isNullish = false →
    seen.succeeded = none ∧ ∃ answer, result = .ok answer ∧ answer.data = value
  recorded : ∀ data, seen.succeeded = some data →
    seen.recorded = true ∧ ∃ answer, result = .ok answer ∧ answer.data = data

/-- The lookup missed, and the adapter has not answered yet. -/
structure AwaitsAnswer (seen : Handled) : Prop where
  sound : seen.sound = true
  looked : ∃ value, seen.looked = some value ∧ value.isNullish = true
  succeeded : seen.succeeded = none

theorem AwaitsAnswer.ends {seen : Handled} (unanswered : AwaitsAnswer seen)
    {result : Except Exn PortResult}
    (registered : ∀ name, result ≠ .error (.portNotRegistered name)) : EndsWell result seen where
  sound := unanswered.sound
  registered := registered
  looked := by
    obtain ⟨value, looked, -⟩ := unanswered.looked
    exact ⟨value, looked⟩
  hit value looked present := by
    obtain ⟨other, found, nullish⟩ := unanswered.looked
    rw [found, Option.some.injEq] at looked
    rw [← looked, nullish] at present
    cases present
  recorded data succeeded := by
    rw [unanswered.succeeded] at succeeded
    cases succeeded

section Walk

variable {wiring : Wiring} {i : Invocation} {rawKey : String} {seen : Handled}

/-- From here on the call ends as an idempotent call should. -/
abbrev Leads (i : Invocation) (key : String) (task : PortTask registryOnly PortResult)
    (seen : Handled) : Prop :=
  Observed (handle i key) EndsWell task seen

theorem leads_executeWithQueue (unanswered : AwaitsAnswer seen) {key : String} (entry : PortEntry)
    (adapter : AdapterKind) (startTime : Nat) (originalError : Option Exn) :
    Leads i key (executeWithQueue wiring.kept i entry adapter startTime originalError) seen := by
  have fallBack : Leads i key (executeFallback (X := registryOnly) i adapter startTime
      originalError) seen := by
    intro world
    simp only
    split
    · exact unanswered.ends fun name wrong => by cases wrong
    · exact unanswered.ends fun name wrong => by cases wrong
  have queue : Leads i key (enqueueAndReject wiring.kept i) seen := by
    unfold enqueueAndReject QueueService.enqueue
    split
    · intro reply
      cases reply with
      | ok jobId => exact unanswered.ends fun name wrong => by cases wrong
      | failed applied reason => exact unanswered.ends fun name wrong => by cases wrong
    · exact unanswered.ends fun name wrong => by cases wrong
  unfold executeWithQueue
  split
  · exact fallBack
  · split
    · intro world
      simp only
      split
      · exact queue
      · exact unanswered.ends fun name wrong => by cases wrong
    · exact queue

theorem handle_set {asked key : String} {value : JsValue} {ttl : Option Nat} {reply : Reply Unit}
    (other : asked ≠ key) :
    handle i key seen (.answered (.inl (.cache (.set asked value ttl))) reply) = seen :=
  if_neg other

/-- The writes after a success: the read cache, the slot, and the record. -/
theorem observed_postProcess {key : String} {data : JsValue}
    {post : Except Exn Unit → Handled → Prop}
    (wired : wiring.idempotencyService = true) (keyed : i.idempotencyKey = some rawKey)
    (nonempty : rawKey ≠ "")
    (same : key = InboundIdempotencyService.buildCacheKey wiring.kept rawKey)
    (recorded : post (.ok ()) (handle i key seen
      (.answered (.inl (.cache (.set key data (some InboundIdempotencyService.DEFAULT_TTL))))
        (Reply.ok ())))) (entry : PortEntry) :
    Observed (handle i key) post (postProcess wiring.kept i entry data) seen := by
  have record : Observed (handle i key) post (recordResult wiring.kept i data) seen := by
    unfold recordResult
    rw [keyed]
    have stores : (rawKey ≠ "" && wiring.kept.idempotencyService) = true := by
      simp [nonempty, Wiring.kept, wired]
    simp only [stores, if_true]
    subst same
    intro reply
    cases reply with
    | ok done => exact recorded
    | failed applied reason => exact recorded
  have fill : Observed (handle i key) post
      (fillSlot i data >>= fun _ => recordResult wiring.kept i data) seen :=
    fun world => record
  have write : Observed (handle i key) post
      (writeCache wiring.kept i entry data >>= fun _ => fillSlot i data >>= fun _ =>
        recordResult wiring.kept i data) seen := by
    unfold writeCache
    split
    · intro world reply
      change Observed _ _ _ (handle i key seen (.answered (.inl (.cache (.set
        (buildCacheKey wiring.kept i.portName i.method i.params) _ _))) reply))
      rw [handle_set (same ▸ buildCacheKey_ne rawKey i.portName i.method i.params)]
      cases reply with
      | ok done => exact fill
      | failed applied reason => exact fill
    · exact fill
  unfold postProcess
  split
  · unfold invalidatePort
    split
    · exact fun world => write
    · exact write
  · exact write

theorem handle_get {asked key : String} {reply : Reply JsValue} (other : asked ≠ key) :
    handle i key seen (.answered (.inl (.cache (.get asked))) reply) = seen :=
  if_neg other

theorem leads_executeThroughBreaker (unanswered : AwaitsAnswer seen)
    (wired : wiring.idempotencyService = true) (keyed : i.idempotencyKey = some rawKey)
    (nonempty : rawKey ≠ "") {key : String}
    (same : key = InboundIdempotencyService.buildCacheKey wiring.kept rawKey) (entry : PortEntry)
    (adapter : AdapterKind) (startTime : Nat) :
    Leads i key (executeThroughBreaker wiring.kept i entry adapter startTime) seen := by
  intro world
  change Leads i key (if rejectsNow world i.portName = true then _ else _) seen
  split
  · exact leads_executeWithQueue unanswered entry adapter startTime none
  · intro world outcome
    cases outcome with
    | error originalError =>
      intro world
      exact leads_executeWithQueue unanswered entry adapter startTime (some originalError)
    | ok data =>
      intro world moment
      have stored : Observed (handle i key)
          (fun result last => result = .ok () ∧ last = ⟨seen.looked, some data, true, true⟩)
          (postProcess wiring.kept i entry data)
          (handle i key seen (.marked (.inl (.settled adapter i (.ok data))))) := by
        apply observed_postProcess wired keyed nonempty same
        refine ⟨rfl, ?_⟩
        obtain ⟨value, looked, nullish⟩ := unanswered.looked
        simp [handle, unanswered.sound, unanswered.succeeded, looked, nullish]
      apply stored.andThen
      · rintro error last ⟨wrong, -⟩
        cases wrong
      · rintro - last ⟨-, rfl⟩
        obtain ⟨value, looked, nullish⟩ := unanswered.looked
        constructor
        · rfl
        · exact fun name wrong => by cases wrong
        · exact ⟨value, looked⟩
        · intro other found present
          rw [looked, Option.some.injEq] at found
          rw [← found, nullish] at present
          cases present
        · intro other succeeded
          cases succeeded
          exact ⟨rfl, _, rfl, rfl⟩

theorem leads_executeThroughCache (unanswered : AwaitsAnswer seen)
    (wired : wiring.idempotencyService = true) (keyed : i.idempotencyKey = some rawKey)
    (nonempty : rawKey ≠ "") {key : String}
    (same : key = InboundIdempotencyService.buildCacheKey wiring.kept rawKey) (entry : PortEntry)
    (adapter : AdapterKind) (startTime : Nat) :
    Leads i key (executeThroughCache wiring.kept i entry adapter startTime) seen := by
  unfold executeThroughCache
  split
  · intro reply world
    change Observed _ _ _ (handle i key seen (.answered (.inl (.cache (.get
      (buildCacheKey wiring.kept i.portName i.method i.params)))) reply))
    rw [handle_get (same ▸ buildCacheKey_ne rawKey i.portName i.method i.params)]
    change Leads i key (if (Reply.getD reply .null).isNullish = true then _ else _) seen
    split
    · exact leads_executeThroughBreaker unanswered wired keyed nonempty same entry adapter startTime
    · exact unanswered.ends fun name wrong => by cases wrong
  · exact leads_executeThroughBreaker unanswered wired keyed nonempty same entry adapter startTime

theorem leads_executeRegistered (wired : wiring.idempotencyService = true)
    (keyed : i.idempotencyKey = some rawKey) (nonempty : rawKey ≠ "") {key : String}
    (same : key = InboundIdempotencyService.buildCacheKey wiring.kept rawKey) (entry : PortEntry)
    (adapter : AdapterKind) (startTime : Nat) :
    Leads i key (executeRegistered wiring.kept i entry adapter startTime) .nothing := by
  have checks : (rawKey ≠ "" && wiring.kept.idempotencyService) = true := by
    simp [nonempty, Wiring.kept, wired]
  unfold executeRegistered
  rw [keyed]
  simp only [checks, if_true]
  intro reply world
  have looked : handle i key .nothing (.answered (.inl (.cache (.get
      (InboundIdempotencyService.buildCacheKey wiring.kept rawKey)))) reply) =
        ⟨some (Reply.getD reply .null), none, false, true⟩ := if_pos same.symm
  change Observed _ _ _ (handle i key .nothing (.answered (.inl (.cache (.get
    (InboundIdempotencyService.buildCacheKey wiring.kept rawKey)))) reply))
  rw [looked]
  change Leads i key (if (Reply.getD reply .null).isNullish = true then _ else _) _
  split
  · rename_i nullish
    apply leads_executeThroughCache _ wired keyed nonempty same
    exact ⟨rfl, ⟨_, rfl, nullish⟩, rfl⟩
  · constructor
    · rfl
    · exact fun name wrong => by cases wrong
    · exact ⟨_, rfl⟩
    · intro value found present
      cases found
      exact ⟨rfl, _, rfl, rfl⟩
    · exact fun data succeeded => by cases succeeded

theorem observed_execute (wired : wiring.idempotencyService = true)
    (keyed : i.idempotencyKey = some rawKey) (nonempty : rawKey ≠ "") {key : String}
    (same : key = InboundIdempotencyService.buildCacheKey wiring.kept rawKey) :
    Observed (handle i key) (fun result seen =>
      (result = .error (.portNotRegistered i.portName) ∧ seen = .nothing) ∨ EndsWell result seen)
      (execute wiring.kept i) .nothing := by
  intro world
  simp only [Task.done_bind]
  split
  · exact Or.inl ⟨rfl, rfl⟩
  · exact (leads_executeRegistered wired keyed nonempty same _ _ _).mono fun _ _ => Or.inr

/-- What the end of an idempotent call looks like to its caller. -/
def EndsCall (i : Invocation) (result : Except Exn Resolution) (seen : Handled) : Prop :=
  (result = .error (.portNotRegistered i.portName) ∧ seen = .nothing) ∨
    ∃ answer : Except Exn PortResult, result = answer.map .port ∧ EndsWell answer seen

theorem observed_body (wired : wiring.idempotencyService = true)
    (keyed : i.idempotencyKey = some rawKey) (nonempty : rawKey ≠ "") {key : String}
    (same : key = InboundIdempotencyService.buildCacheKey wiring.kept rawKey) :
    Observed (handle i key) (EndsCall i) (portBody wiring.kept (.execute i)) .nothing := by
  change Observed _ _ (execute wiring.kept i >>= fun result =>
    EventLoop.Task.done (Resolution.port result)) _
  apply (observed_execute wired keyed nonempty same).andThen
  · rintro error last (⟨refused, rfl⟩ | ended)
    · exact Or.inl ⟨congrArg Except.error (Except.error.inj refused), rfl⟩
    · exact Or.inr ⟨.error error, rfl, ended⟩
  · rintro answer last (⟨refused, -⟩ | ended)
    · cases refused
    · exact Or.inr ⟨.ok answer, rfl, ended⟩

/-- The promises a call leaves behind have nothing to do with its result. -/
theorem observed_detached {call : PortCall} {key : String}
    (kind : call = .invalidate i ∨ call = .refresh i) :
    Observed (handle i key) (fun _ seen => seen = .nothing) (portBody wiring.kept call)
      .nothing := by
  rcases kind with rfl | rfl
  · change Observed _ _ ((CacheService.deleteByPattern wiring.kept.backend.kind
      (portPattern i.portName) : PortTask registryOnly Nat).attempt >>= fun _ =>
        EventLoop.Task.done Resolution.nothing) _
    unfold CacheService.deleteByPattern
    split
    · exact fun reply => rfl
    · intro reply
      cases reply with
      | failed applied reason => rfl
      | ok fullKeys =>
        cases fullKeys with
        | nil => rfl
        | cons fullKey rest =>
          intro reply
          cases reply with
          | ok done => rfl
          | failed applied reason => rfl
  · change Observed _ _ ((QueueService.enqueue wiring.kept (replayPayload i)).attempt >>= fun _ =>
      EventLoop.Task.done Resolution.nothing) _
    unfold QueueService.enqueue
    split
    · intro reply
      cases reply with
      | ok jobId => rfl
      | failed applied reason => rfl
    · rfl

end Walk

/-! ### What later events leave of a summary -/

section Progress

variable {i : Invocation} {key : String}

/-- Nothing that was seen is forgotten, and unsoundness stays. -/
structure Handled.Before (seen later : Handled) : Prop where
  sound : later.sound = true → seen.sound = true
  succeeded : seen.succeeded.isSome = true → later.succeeded.isSome = true

theorem Handled.Before.refl (seen : Handled) : seen.Before seen := ⟨id, id⟩

theorem Handled.Before.trans {seen middle later : Handled} (first : seen.Before middle)
    (next : middle.Before later) : seen.Before later where
  sound kept := first.sound (next.sound kept)
  succeeded known := next.succeeded (first.succeeded known)

theorem handle_before (seen : Handled) (event : PortEvent registryOnly) :
    seen.Before (handle i key seen event) := by
  unfold handle
  split
  · split
    · exact ⟨id, id⟩
    · exact .refl seen
  · split
    · exact ⟨fun kept => (Bool.and_eq_true_iff.mp kept).1, id⟩
    · exact .refl seen
  · constructor
    · intro kept
      simp only [Bool.and_eq_true] at kept
      exact kept.1.1.1
    · exact fun _ => rfl
  · exact .refl seen

theorem handle_foldl (events : List (PortEvent registryOnly)) (seen : Handled) :
    seen.Before (events.foldl (handle i key) seen) := by
  induction events generalizing seen with
  | nil => exact .refl seen
  | cons event rest ih => exact (handle_before seen event).trans (ih _)

theorem observation_before (seen : Handled) (trace : RegistryTrace) :
    seen.Before (observation (handle i key) seen trace) := by
  rw [observation, ← List.foldl_map]
  exact handle_foldl _ seen

theorem observation_append (seen : Handled) (early late : RegistryTrace) :
    observation (handle i key) seen (early ++ late) =
      observation (handle i key) (observation (handle i key) seen early) late :=
  List.foldl_append

theorem looked_of_handle {seen : Handled} {event : PortEvent registryOnly} {value : JsValue}
    (looked : (handle i key seen event).looked = some value) : seen.looked = some value ∨
      ∃ reply : Reply JsValue, event = .answered (.inl (.cache (.get key))) reply ∧
        reply.getD .null = value := by
  unfold handle at looked
  split at looked
  · rename_i asked reply
    split at looked
    · rename_i same
      subst same
      exact Or.inr ⟨reply, rfl, Option.some.inj looked⟩
    · exact Or.inl looked
  · split at looked
    · exact Or.inl looked
    · exact Or.inl looked
  · exact Or.inl looked
  · exact Or.inl looked

theorem succeeded_of_handle {seen : Handled} {event : PortEvent registryOnly} {data : JsValue}
    (succeeded : (handle i key seen event).succeeded = some data) :
    seen.succeeded = some data ∨
      ∃ adapter j, event = .marked (.inl (.settled adapter j (.ok data))) := by
  unfold handle at succeeded
  split at succeeded
  · split at succeeded
    · exact Or.inl succeeded
    · exact Or.inl succeeded
  · split at succeeded
    · exact Or.inl succeeded
    · exact Or.inl succeeded
  · cases succeeded
    exact Or.inr ⟨_, _, rfl⟩
  · exact Or.inl succeeded

theorem recorded_of_handle {seen : Handled} {event : PortEvent registryOnly}
    (recorded : (handle i key seen event).recorded = true) : seen.recorded = true ∨
      ∃ value ttl, ∃ reply : Reply Unit,
        event = .answered (.inl (.cache (.set key value ttl))) reply := by
  unfold handle at recorded
  split at recorded
  · split at recorded
    · exact Or.inl recorded
    · exact Or.inl recorded
  · rename_i asked value ttl reply
    split at recorded
    · rename_i same
      subst same
      exact Or.inr ⟨value, ttl, reply, rfl⟩
    · exact Or.inl recorded
  · exact Or.inl recorded
  · exact Or.inl recorded

/-- What an observation found was found at one of the entries. -/
theorem found_of_observation (P : Handled → Prop) {Q : PortEvent registryOnly → Prop}
    (step : ∀ seen event, P (handle i key seen event) → P seen ∨ Q event)
    (clean : ¬ P .nothing) {trace : RegistryTrace}
    (found : P (observation (handle i key) .nothing trace)) :
    ∃ entry ∈ trace, Q entry.event := by
  induction trace using List.reverseRecOn with
  | nil => exact absurd found clean
  | append_singleton trace entry ih =>
    rw [observation_snoc] at found
    rcases step _ _ found with old | new
    · obtain ⟨earlier, member, said⟩ := ih old
      exact ⟨earlier, List.mem_append_left [entry] member, said⟩
    · exact ⟨entry, by simp, new⟩

end Progress

end SelfService
