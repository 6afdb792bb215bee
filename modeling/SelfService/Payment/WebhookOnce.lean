/-
Whether a payment webhook takes effect once.

The lookup of a delivery and the record of its result are separated by the side
effects.  A recorded result is found for as long as it is kept; a delivery that
looks up before another one records does not find it.
-/

import SelfService.Caching.Retention
import SelfService.EventLoop.History
import SelfService.Payment.WebhookInvalidation

namespace SelfService

open Data EventLoop PortRegistry PaymentService

/-! ### Observations -/

/-- How long a recorded result is kept, in milliseconds. -/
def RETENTION : Nat := IdempotencyService.DEFAULT_TTL * 1000

/-- What task `tid` was started to deliver. -/
def deliveryOf (tid : Nat) (entry : PortTraceEntry payment) : Option (String × WebhookStatus) :=
  match entry.event with
  | .started (.inr (.handleWebhook _ body)) =>
      if entry.tid = tid then
        (PaymentWebhookPayload.parse body).map fun payload => (payload.paymentId, payload.status)
      else none
  | _ => none

def sameDelivery (before : PortTrace payment) (first second : Nat) : Bool :=
  before.any fun start => before.any fun other =>
    (deliveryOf first start).isSome && deliveryOf first start = deliveryOf second other

/-- The delivery that carries out a side effect. -/
def effectOf (entry : PortTraceEntry payment) : Option (String × WebhookStatus) :=
  match entry.event with
  | .marked (.inr (.affects payload _)) => some (payload.paymentId, payload.status)
  | _ => none

def missesLookup (key : String) (entry : PortTraceEntry payment) : Bool :=
  match entry.event with
  | .answered (.inl (.cache (.get asked))) reply => asked = key && !recalls reply
  | _ => false

def recordsResult (key : String) (entry : PortTraceEntry payment) : Bool :=
  match entry.event with
  | .answered (.inl (.cache (.set written _ _))) (Reply.ok _) => written = key
  | _ => false

/-- Two tasks carry out the same delivery only when a recorded result is no longer kept. -/
def affectedOnce (before : PortTrace payment) (entry : PortTraceEntry payment) : Bool :=
  (effectOf entry).all fun delivery => before.all fun earlier =>
    !(effectOf earlier = some delivery) || earlier.tid = entry.tid ||
      earlier.time + RETENTION < entry.time

def answersDuplicate (payload : PaymentWebhookPayload) : Except Exn Resolution → Bool
  | .ok (.value value) => value = duplicateResult payload
  | _ => false

/-- A delivery that carried out nothing is answered as a duplicate. -/
def othersAreDuplicates (before : PortTrace payment) (entry : PortTraceEntry payment) : Bool :=
  match entry.event with
  | .finished (.inr (.handleWebhook _ body)) result =>
      (PaymentWebhookPayload.parse body).all fun payload =>
        before.any (fun other => other.tid = entry.tid && (effectOf other).isSome) ||
          answersDuplicate payload result
  | _ => true

def deliveredOnce (before : PortTrace payment) (entry : PortTraceEntry payment) : Bool :=
  affectedOnce before entry && othersAreDuplicates before entry

/-- A lookup misses only if every other task that missed for the same delivery has recorded
its result, in a cache that keeps objects; and no call carries an idempotency key. -/
def deliveriesApart (wiring : Wiring) (before : PortTrace payment)
    (entry : PortTraceEntry payment) : Bool :=
  match entry.event with
  | .answered (.inl (.cache (.get key))) reply =>
      recalls reply || before.all fun other =>
        !missesLookup key other || other.tid = entry.tid ||
          !sameDelivery before other.tid entry.tid ||
          (wiring.backend.kind = .memory &&
            before.any fun record => record.tid = other.tid && recordsResult key record)
  | .marked (.inl (.settled _ i _)) => i.idempotencyKey = none
  | _ => true

/-! ### What is kept -/

/-- The recorded result is in the cache, and stays for as long as promised. -/
def Kept (d : Deployment payment) (world : World payment) (key : String) (moment : Nat) : Prop :=
  ∃ entry expiry, world.cache.get? (getFullKey d.backend.options key) = some entry ∧
    recalls (.ok entry.value) = true ∧ entry.expiry = some expiry ∧ moment + RETENTION ≤ expiry

/-- How one event treats the recorded results. -/
structure Lasts (d : Deployment payment) (earlier world : World payment)
    (event : PortEvent payment) : Prop where
  lasting : ∀ paymentId moment, moment ≤ earlier.now → earlier.now ≤ moment + RETENTION →
    Kept d earlier (webhookKey paymentId) moment → Kept d world (webhookKey paymentId) moment
  recorded : ∀ paymentId tid time, recordsResult (webhookKey paymentId) ⟨tid, time, event⟩ = true →
    Kept d world (webhookKey paymentId) earlier.now
  missed : ∀ paymentId tid time moment,
    missesLookup (webhookKey paymentId) ⟨tid, time, event⟩ = true →
    earlier.now ≤ moment + RETENTION → ¬ Kept d earlier (webhookKey paymentId) moment

section Kept

variable {d : Deployment payment} {world : World payment}

theorem Kept.fresh {key : String} {moment : Nat} (kept : Kept d world key moment)
    (within : world.now ≤ moment + RETENTION) :
    ∃ entry expiry, world.cache.get? (getFullKey d.backend.options key) = some entry ∧
      recalls (.ok entry.value) = true ∧ entry.expiry = some expiry ∧
      moment + RETENTION ≤ expiry ∧ entry.expired world.now = false := by
  obtain ⟨entry, expiry, found, recalled, until_, enough⟩ := kept
  refine ⟨entry, expiry, found, recalled, until_, enough, ?_⟩
  have notYet : ¬ expiry < world.now := by omega
  simp [CacheEntry.expired, until_, notYet]

/-- An entry that is still there in another world is still kept. -/
theorem Kept.of_retained {later : World payment} {key : String} {moment : Nat}
    (kept : Kept d world key moment) (within : world.now ≤ moment + RETENTION)
    (retained : ∀ entry, world.cache.get? (getFullKey d.backend.options key) = some entry →
      entry.expired world.now = false →
      later.cache.get? (getFullKey d.backend.options key) = some entry) :
    Kept d later key moment := by
  obtain ⟨entry, expiry, found, recalled, until_, enough, fresh⟩ := kept.fresh within
  exact ⟨entry, expiry, retained entry found fresh, recalled, until_, enough⟩

theorem lasts_of_uncached {event : PortEvent payment} {later : World payment}
    (same : later.cache = world.cache) (other : Uncached event) : Lasts d world later event where
  lasting paymentId moment _ _ kept := by
    unfold Kept at kept ⊢
    rw [same]
    exact kept
  recorded paymentId tid time records := by
    unfold recordsResult at records
    split at records
    · rename_i event
      exact absurd event (other _ _)
    · cases records
  missed paymentId tid time moment misses := by
    unfold missesLookup at misses
    split at misses
    · rename_i event
      exact absurd event (other _ _)
    · cases misses

variable {command : CacheCommand} {answer : command.Answer} {cache : Store}

/-- A lookup finds what is kept. -/
theorem not_missed_of_kept (memory : d.backend.kind = .memory)
    (served : d.backend.perform world.now world.cache command answer = some cache) {key : String}
    {tid time moment : Nat}
    (misses : missesLookup key ⟨tid, time, .answered (.inl (.cache command)) answer⟩ = true)
    (within : world.now ≤ moment + RETENTION) : ¬ Kept d world key moment := by
  intro kept
  obtain ⟨entry, expiry, found, recalled, -, -, fresh⟩ := kept.fresh within
  unfold missesLookup at misses
  split at misses
  · rename_i asked reply event
    cases event
    rw [Bool.and_eq_true, decide_eq_true_eq, Bool.not_eq_true'] at misses
    obtain ⟨rfl, missed⟩ := misses
    cases reply with
    | failed applied reason => simp [Backend.perform, Backend.performMemory, memory] at served
    | ok value =>
        simp only [Backend.perform, Backend.performMemory, memory] at served
        obtain ⟨read, -⟩ := Option.ite_none_right_eq_some.mp served
        rw [MemoryCacheService.get_of_live found fresh] at read
        rw [read] at missed
        exact Bool.false_ne_true (missed.symm.trans recalled)
  · cases misses

/-- A command that touches no recorded result. -/
theorem lasts_of_spared (memory : d.backend.kind = .memory)
    (room : d.backend.overflows world.cache command = false)
    (served : d.backend.perform world.now world.cache command answer = some cache)
    (spared : ∀ paymentId, d.backend.touches
      (getFullKey d.backend.options (webhookKey paymentId)) command = false) :
    Lasts d world { world with cache := cache } (.answered (.inl (.cache command)) answer) where
  lasting paymentId moment _ within kept :=
    kept.of_retained within fun entry found fresh =>
      Backend.retained room served (spared paymentId) found fresh
  recorded paymentId tid time records := by
    unfold recordsResult at records
    split at records
    · rename_i written value ttl done event
      cases event
      have touched := spared paymentId
      rw [of_decide_eq_true records] at touched
      simp [Backend.touches] at touched
    · cases records
  missed paymentId tid time moment misses within :=
    not_missed_of_kept memory served misses within

/-- The record of a delivery is kept, and leaves the other records alone. -/
theorem lasts_of_record (memory : d.backend.kind = .memory) {paymentId commandType : String}
    {time : Nat} {result : JsValue} {reply : Reply Unit}
    (room : d.backend.overflows world.cache (.set (webhookKey paymentId)
      (IdempotencyService.envelope time result commandType IdempotencyService.DEFAULT_TTL)
      (some IdempotencyService.DEFAULT_TTL)) = false)
    (served : d.backend.perform world.now world.cache (.set (webhookKey paymentId)
      (IdempotencyService.envelope time result commandType IdempotencyService.DEFAULT_TTL)
      (some IdempotencyService.DEFAULT_TTL)) reply = some cache) :
    Lasts d world { world with cache := cache } (.answered (.inl (.cache (.set (webhookKey paymentId)
      (IdempotencyService.envelope time result commandType IdempotencyService.DEFAULT_TTL)
      (some IdempotencyService.DEFAULT_TTL)))) reply) := by
  have kept : Kept d { world with cache := cache } (webhookKey paymentId) world.now := by
    cases reply with
    | failed applied reason => simp [Backend.perform, Backend.performMemory, memory] at served
    | ok done =>
        simp only [Backend.perform, Backend.performMemory, memory] at served
        cases served
        refine ⟨_, _, OrderedMap.get?_set_self _ _ _, rfl, rfl, Nat.le_refl _⟩
  constructor
  · intro other moment early within held
    by_cases same : webhookKey paymentId = webhookKey other
    · rw [← same]
      obtain ⟨entry, expiry, found, recalled, until_, enough⟩ := kept
      exact ⟨entry, expiry, found, recalled, until_, by omega⟩
    · apply held.of_retained within
      intro entry found fresh
      apply Backend.retained room served _ found fresh
      simp only [Backend.touches, decide_eq_false_iff_not]
      intro equal
      exact same (getFullKey_injective _ equal)
  · intro other tid time records
    have same : webhookKey paymentId = webhookKey other := by
      cases reply with
      | failed applied reason => cases records
      | ok done => exact of_decide_eq_true records
    rw [← same]
    exact kept
  · intro other tid time moment misses
    cases misses

theorem webhookKey_head (paymentId : String) :
    ∃ text, (webhookKey paymentId).toList = 'i' :: text := by
  unfold webhookKey IdempotencyService.buildCacheKey
  rw [String.append_assoc, String.toList_append]
  exact ⟨_, rfl⟩

theorem webhookKey_ne_cacheKeyOf (paymentId portName : String) (hash : ShortHash) :
    cacheKeyOf portName hash ≠ webhookKey paymentId := by
  intro same
  obtain ⟨text, record⟩ := webhookKey_head paymentId
  obtain ⟨rest, port⟩ := cacheKeyOf_head portName hash
  rw [← same, port] at record
  simp at record

/-- No pattern of a port selects a recorded result. -/
theorem portPattern_spares (memory : d.backend.kind = .memory) (portName paymentId : String) :
    d.backend.selects (portPattern portName)
      (getFullKey d.backend.options (webhookKey paymentId)) = false := by
  obtain ⟨rest, pattern⟩ := portPattern_head portName
  obtain ⟨tail, key⟩ := webhookKey_head paymentId
  unfold Backend.selects
  rw [memory]
  exact MemoryCacheService.selects_eq_false d.backend.plainPrefix (encode_head pattern rfl)
    (by simp [Ordinary]) (encode_head key rfl) (by decide)

end Kept

/-! ### The invariant -/

/-- No adapter call that settled carried an idempotency key. -/
def keyless (trace : PortTrace payment) : Bool :=
  trace.all fun entry => match entry.event with
    | .marked (.inl (.settled _ i _)) => i.idempotencyKey = none
    | _ => true

/-- The task began with this delivery and then missed its lookup. -/
def Missed (before : PortTrace payment) (tid : Nat) (payload : PaymentWebhookPayload) : Prop :=
  ∃ past reply, past.any (fun start =>
      deliveryOf tid start = some (payload.paymentId, payload.status)) = true ∧
    recalls reply = false ∧ SawSince past before tid
      (.answered (.inl (.cache (.get (webhookKey payload.paymentId)))) reply)

/-- Writes of this key, by whomever. -/
def setsKey (key : String) (event : PortEvent payment) : Bool :=
  match event with
  | .answered (.inl (.cache (.set written _ _))) _ => written = key
  | _ => false

/-- A delivery carries out its side effects after it missed and before it records. -/
def EffectLaw (before : PortTrace payment) (entry : PortTraceEntry payment) : Prop :=
  ∀ payload effect, entry.event = .marked (.inr (.affects payload effect)) →
    Missed before entry.tid payload ∧
      OwnFree entry.tid (setsKey (webhookKey payload.paymentId)) before

/-- A lookup misses no record that is still kept. -/
def MissLaw (before : PortTrace payment) (entry : PortTraceEntry payment) : Prop :=
  ∀ paymentId, missesLookup (webhookKey paymentId) entry = true →
    ∀ earlier ∈ before, recordsResult (webhookKey paymentId) earlier = true →
      earlier.time + RETENTION < entry.time

structure Remembers (d : Deployment payment) (s : PortSnapshot payment) : Prop where
  clock : ∀ entry ∈ s.trace, entry.time ≤ s.state.now
  ordered : Always (fun before entry => ∀ earlier ∈ before, earlier.time ≤ entry.time) s.trace
  effects : Always EffectLaw s.trace
  ended : Passes othersAreDuplicates s.trace
  kept : d.backend.kind = .memory → keyless s.trace = true → ∀ paymentId, ∀ entry ∈ s.trace,
    recordsResult (webhookKey paymentId) entry = true →
    s.state.now ≤ entry.time + RETENTION → Kept d s.state (webhookKey paymentId) entry.time
  misses : d.backend.kind = .memory → keyless s.trace = true → Always MissLaw s.trace

section Remembers

variable {d : Deployment payment} {s : PortSnapshot payment}

theorem remembers_nil (world : World payment) :
    Remembers d (⟨world, []⟩ : PortSnapshot payment) where
  clock _ member := by cases member
  ordered := always_nil _
  effects := always_nil _
  ended := always_nil _
  kept _ _ _ _ member := by cases member
  misses _ _ := always_nil _

theorem keyless_earlier {early late : PortTrace payment} (grown : early <+: late)
    (free : keyless late = true) : keyless early = true := by
  unfold keyless at free ⊢
  rw [List.all_eq_true] at free ⊢
  exact fun entry member => free entry (grown.subset member)

theorem Remembers.observe (hold : Remembers d s) {world : World payment} {tid : Nat}
    {event : PortEvent payment} (still : world.now = s.state.now)
    (lasts : d.backend.kind = .memory → keyless s.trace = true → Lasts d s.state world event)
    (effects : EffectLaw s.trace ⟨tid, s.state.now, event⟩)
    (ended : othersAreDuplicates s.trace ⟨tid, s.state.now, event⟩ = true) :
    Remembers d ((⟨world, s.trace⟩ : PortSnapshot payment).log (paymentSystem d) tid event) := by
  have now : (paymentSystem d).clock world = s.state.now := still
  have before (free : keyless (s.trace ++
      [(⟨tid, s.state.now, event⟩ : PortTraceEntry payment)]) = true) :
      keyless s.trace = true := keyless_earlier (List.prefix_append _ _) free
  constructor
  · intro entry member
    rw [Snapshot.log_trace, now] at member
    change entry.time ≤ world.now
    rw [still]
    rcases List.mem_append.mp member with old | new
    · exact hold.clock entry old
    · rw [List.mem_singleton.mp new]
  · rw [Snapshot.log_trace, now, always_snoc]
    exact ⟨hold.ordered, hold.clock⟩
  · rw [Snapshot.log_trace, now, always_snoc]
    exact ⟨hold.effects, effects⟩
  · rw [Snapshot.log_trace, now, Passes, always_snoc]
    exact ⟨hold.ended, ended⟩
  · intro memory free paymentId entry member records
    rw [Snapshot.log_trace, now] at member free
    intro within
    change world.now ≤ _ at within
    rw [still] at within
    have lasts := lasts memory (before free)
    rcases List.mem_append.mp member with old | new
    · exact lasts.lasting paymentId entry.time (hold.clock entry old) within
        (hold.kept memory (before free) paymentId entry old records within)
    · rw [List.mem_singleton.mp new] at records ⊢
      exact lasts.recorded paymentId _ _ records
  · intro memory free
    rw [Snapshot.log_trace, now] at free ⊢
    rw [always_snoc]
    refine ⟨hold.misses memory (before free), ?_⟩
    intro paymentId misses earlier member records
    by_contra early
    have within : s.state.now ≤ earlier.time + RETENTION := Nat.le_of_not_lt early
    exact (lasts memory (before free)).missed paymentId _ _ earlier.time misses within
      (hold.kept memory (before free) paymentId earlier member records within)

/-- An event that is neither an answer of the cache, nor a side effect, nor the end of a
delivery. -/
def Plain (event : PortEvent payment) : Prop :=
  Uncached event ∧ (∀ payload effect, event ≠ .marked (.inr (.affects payload effect))) ∧
    ∀ call result, event ≠ .finished (.inr call) result

theorem effectLaw_of_ne {trace : PortTrace payment} {entry : PortTraceEntry payment}
    (other : ∀ payload effect, entry.event ≠ .marked (.inr (.affects payload effect))) :
    EffectLaw trace entry :=
  fun payload effect same => absurd same (other payload effect)

theorem ended_of_ne {trace : PortTrace payment} {entry : PortTraceEntry payment}
    (other : ∀ call result, entry.event ≠ .finished (.inr call) result) :
    othersAreDuplicates trace entry = true := by
  unfold othersAreDuplicates
  split
  · rename_i event
    exact absurd event (other _ _)
  · rfl

theorem Remembers.note (hold : Remembers d s) {world : World payment} {tid : Nat}
    {event : PortEvent payment} (still : world.now = s.state.now)
    (same : world.cache = s.state.cache) (plain : Plain event) :
    Remembers d ((⟨world, s.trace⟩ : PortSnapshot payment).log (paymentSystem d) tid event) :=
  hold.observe still (fun _ _ => lasts_of_uncached same plain.1) (effectLaw_of_ne plain.2.1)
    (ended_of_ne plain.2.2)

/-- An answer of the cache. -/
theorem Remembers.told (hold : Remembers d s) {tid : Nat} {command : CacheCommand}
    {answer : command.Answer} {cache : Store}
    (lasts : d.backend.kind = .memory → keyless s.trace = true →
      Lasts d s.state { s.state with cache := cache } (.answered (.inl (.cache command)) answer)) :
    Remembers d (told d tid s cache command answer) :=
  hold.observe rfl lasts (effectLaw_of_ne fun _ _ same => by cases same)
    (ended_of_ne fun _ _ same => by cases same)

/-- Nothing was observed, and what is kept stays. -/
theorem Remembers.shift (hold : Remembers d s) {world : World payment}
    (later : s.state.now ≤ world.now)
    (lasting : d.backend.kind = .memory → ∀ paymentId moment, world.now ≤ moment + RETENTION →
      Kept d s.state (webhookKey paymentId) moment → Kept d world (webhookKey paymentId) moment) :
    Remembers d { s with state := world } where
  clock entry member := (hold.clock entry member).trans later
  ordered := hold.ordered
  effects := hold.effects
  ended := hold.ended
  kept memory free paymentId entry member records within :=
    lasting memory _ _ within
      (hold.kept memory free paymentId entry member records (later.trans within))
  misses := hold.misses

end Remembers

/-! ### The registry -/

section Registry

variable {d : Deployment payment} {s : PortSnapshot payment} {tid : Nat} {i : Invocation}

/-- Without idempotency keys, the registry touches no recorded result. -/
theorem spared_of_issues (memory : d.backend.kind = .memory) (free : keyless s.trace = true)
    {command : CacheCommand} {answer : command.Answer} {cache : Store}
    (issued : Issues d tid i s (.cache command))
    (served : d.backend.perform s.state.now s.state.cache command answer = some cache)
    (paymentId : String) :
    d.backend.touches (getFullKey d.backend.options (webhookKey paymentId)) command = false := by
  cases issued with
  | retrieve rawKey keyed => rfl
  | record rawKey adapter data keyed seen =>
      obtain ⟨time, member⟩ := seen
      have checked := List.all_eq_true.mp free _ member
      simp [keyed] at checked
  | lookup readOnly => rfl
  | fill adapter data cachedAt ttl readOnly seen =>
      simp only [Backend.touches, decide_eq_false_iff_not]
      intro same
      exact webhookKey_ne_cacheKeyOf _ _ _ (getFullKey_injective _ same)
  | erase => exact portPattern_spares memory _ _
  | list => rfl
  | sweep fullKeys listed =>
      cases answer <;> simp [Backend.perform, Backend.performMemory, memory] at served

theorem remembers_closed (working : d.environment = .working d.backend) :
    Closed d (paymentService d) noPromise (Remembers d) tid i := by
  intro s later step hold
  have plain {event : PortEvent payment} (registry : OfRegistry event) (uncached : Uncached event) :
      Plain event := by
    refine ⟨uncached, ?_, ?_⟩
    · intro payload effect same
      rw [same] at registry
      cases registry
    · intro call result same
      rw [same] at registry
      cases registry
  cases step with
  | request => exact hold.note rfl rfl (plain trivial fun _ _ same => by cases same)
  | breakers breakers => exact hold.shift (Nat.le_refl _) fun _ _ _ _ kept => kept
  | invalidate =>
      refine hold.shift ?_ ?_
      · exact Nat.le_refl _
      · intro memory paymentId moment within kept
        apply kept.of_retained within
        intro entry found _
        have spared := portPattern_spares memory i.portName paymentId
        simp only [Backend.selects, memory] at spared
        simp only [MemoryCacheService.deleteByPattern]
        rw [OrderedMap.get?_eraseWhere, spared]
        exact found
  | answer request answer world issued performed =>
      cases request with
      | cache command =>
          obtain ⟨allowed, cache, served, rfl⟩ := performPort_cache performed
          rw [working] at allowed
          apply hold.told
          intro memory free
          exact lasts_of_spared memory (working_answers allowed).2 served
            (spared_of_issues memory free issued served)
      | adapter ref context method params =>
          cases performed
          exact hold.note rfl rfl (plain trivial fun _ _ same => by cases same)
      | queueAdd payload =>
          have unchanged : world.now = s.state.now ∧ world.cache = s.state.cache := by
            cases answer with
            | ok jobId =>
                cases performed
                exact ⟨rfl, rfl⟩
            | failed applied reason => cases applied <;> cases performed <;> exact ⟨rfl, rfl⟩
          exact hold.note unchanged.1 unchanged.2 (plain trivial fun _ _ same => by cases same)
  | settle adapter outcome promised =>
      exact hold.note rfl rfl (plain trivial fun _ _ same => by cases same)
  | fill adapter data seen =>
      exact Remembers.note hold rfl rfl (plain trivial fun _ _ same => by cases same)
  | fallBack data slot present =>
      exact hold.note rfl rfl (plain trivial fun _ _ same => by cases same)
  | detach fresh call other kind =>
      exact hold.note rfl rfl (plain trivial fun _ _ same => by cases same)

theorem remembers_external (working : d.environment = .working d.backend) {event : PortExternal}
    {state : World payment} (hold : Remembers d s)
    (moved : World.external d s.state event = some state) :
    Remembers d { s with state := state } := by
  obtain ⟨_, rfl⟩ | ⟨fullKey, allowed, rfl⟩ | ⟨_, _, rfl⟩ := external_cases moved
  · exact hold.shift (Nat.le_add_right _ _) fun _ _ _ _ kept => kept
  · rw [working] at allowed
    refine hold.shift ?_ ?_
    · exact Nat.le_refl _
    · intro memory paymentId moment within kept
      apply kept.of_retained within
      intro entry found fresh
      exact retained_drop allowed found fresh
  · exact hold.shift (Nat.le_refl _) fun _ _ _ _ kept => kept

theorem plain_adapter {ref : AdapterRef} {context : Option RequestContext} {method : String}
    {params : JsValue} {answer : Except Exn JsValue} :
    Plain (.answered (.inl (.adapter ref context method params)) answer) := by
  refine ⟨?_, ?_, ?_⟩
  · intro _ _ same
    cases same
  · intro _ _ same
    cases same
  · intro _ _ same
    cases same

/-- Without an idempotency key, a call writes no recorded result. -/
theorem ownFree_closed (keyless : i.idempotencyKey = none) (paymentId : String) :
    Closed d (paymentService d) noPromise
      (fun s => OwnFree tid (setsKey (webhookKey paymentId)) s.trace) tid i := by
  intro s later step free
  cases step with
  | request => exact free.snoc fun _ => rfl
  | breakers breakers => exact free
  | invalidate => exact free
  | answer request answer world issued performed =>
      apply free.snoc
      intro _
      cases issued with
      | record rawKey adapter data keyed seen =>
          rw [keyless] at keyed
          cases keyed
      | fill adapter data cachedAt ttl readOnly seen =>
          change decide (buildCacheKey d i.portName i.method i.params = webhookKey paymentId) = false
          exact decide_eq_false (webhookKey_ne_cacheKeyOf _ _ _)
      | _ => rfl
  | settle adapter outcome promised => exact free.snoc fun _ => rfl
  | fill adapter data seen => exact free.snoc fun _ => rfl
  | fallBack data slot present => exact free.snoc fun _ => rfl
  | detach fresh call other kind => exact free.snoc fun _ => rfl

end Registry

/-! ### Deliveries -/

section Deliveries

variable {d : Deployment payment} {s : PortSnapshot payment} {tid : Nat}
  {payload : PaymentWebhookPayload} {past : PortTrace payment}

theorem told_spared (working : d.environment = .working d.backend) (hold : Remembers d s)
    {command : CacheCommand} {answer : command.Answer} {cache : Store}
    (allowed : d.environment.answers s.state.now s.state.cache command answer = true)
    (served : d.backend.perform s.state.now s.state.cache command answer = some cache)
    (spared : d.backend.kind = .memory → ∀ paymentId, d.backend.touches
      (getFullKey d.backend.options (webhookKey paymentId)) command = false) :
    Remembers d (told d tid s cache command answer) := by
  rw [working] at allowed
  apply hold.told
  intro memory _
  exact lasts_of_spared memory (working_answers allowed).2 served (spared memory)

/-- Neither deletion of a delivery touches a recorded result. -/
theorem spared_of_erases (memory : d.backend.kind = .memory) {command : CacheCommand}
    {answer : command.Answer} {cache : Store} (erases : Erases command)
    (served : d.backend.perform s.state.now s.state.cache command answer = some cache)
    (paymentId : String) :
    d.backend.touches (getFullKey d.backend.options (webhookKey paymentId)) command = false := by
  cases command with
  | deleteByPattern pattern =>
      rcases List.mem_cons.mp erases with rfl | other
      · exact portPattern_spares memory "invoice" paymentId
      · rw [List.mem_singleton.mp other]
        exact portPattern_spares memory "debt" paymentId
  | keys pattern => rfl
  | del fullKeys => cases answer <;> simp [Backend.perform, Backend.performMemory, memory] at served
  | _ => cases erases

theorem webhookKeeps_remembers (remote : d.adapter = remoteAdapter)
    (working : d.environment = .working d.backend)
    (begun : past.any (fun start =>
      deliveryOf tid start = some (payload.paymentId, payload.status)) = true) :
    WebhookKeeps d (Remembers d) (OwnFree tid (setsKey (webhookKey payload.paymentId))) tid past
      payload where
  own := ownFact_ownFree _ _
  closed i keyless s later step hold :=
    ⟨remembers_closed working s later step hold.1, ownFree_closed keyless _ s later step hold.2⟩
  adapters i adapter s hold := by
    rw [remote]
    apply remoteAdapter_keeps _ hold
    intro now answer holdNow
    exact ⟨holdNow.1.note rfl rfl plain_adapter, holdNow.2.snoc fun _ => rfl⟩
  looksUp now reply cache _ hold allowed served :=
    ⟨told_spared working hold.1 allowed served fun _ _ => rfl, hold.2.snoc fun _ => rfl⟩
  affects now effect _ hold warranted := by
    refine ⟨?_, hold.2.snoc fun _ => rfl⟩
    apply hold.1.observe rfl
    · intro _ _
      exact lasts_of_uncached rfl fun _ _ same => by cases same
    · intro other mark same
      cases same
      obtain ⟨reply, missed, seen⟩ := warranted.missed
      exact ⟨⟨past, reply, begun, missed, seen⟩, hold.2⟩
    · rfl
  erases now command answer cache erases _ hold allowed served := by
    constructor
    · exact told_spared working hold.1 allowed served
        fun memory => spared_of_erases memory erases served
    · apply hold.2.snoc
      intro _
      cases command with
      | set key value ttl => cases erases
      | _ => rfl
  records now time reply cache _ hold _ := by
    intro command allowed served
    rw [working] at allowed
    apply hold.told
    intro memory _
    exact lasts_of_record memory (working_answers allowed).2 served

/-- A delivery that carried out nothing ends as a duplicate. -/
theorem othersAreDuplicates_of_outcome {context : Option RequestContext} {body : JsValue}
    {result : Except Exn JsValue} (parsed : PaymentWebhookPayload.parse body = some payload)
    (outcome : WebhookOutcome d tid payload past s.trace result) (time : Nat) :
    othersAreDuplicates s.trace
      ⟨tid, time, .finished (.inr (.handleWebhook context body)) (result.map .value)⟩ = true := by
  have affected {effect : WebhookEffect}
      (seen : SawSince past s.trace tid (.marked (.inr (.affects payload effect)))) :
      s.trace.any (fun other => other.tid = tid && (effectOf other).isSome) = true :=
    any_of_saw seen.saw fun _ => by simp [effectOf]
  unfold othersAreDuplicates
  simp only [parsed, Option.all_some, Bool.or_eq_true]
  cases outcome with
  | duplicate reply recalled seen =>
      right
      simp [answersDuplicate, Except.map]
  | processed notified => exact Or.inl (affected notified)
  | failed reason server effect begun => exact Or.inl (affected begun)

theorem handleWebhook_remembers (remote : d.adapter = remoteAdapter)
    (working : d.environment = .working d.backend) {context : Option RequestContext}
    {body : JsValue} (begins : s.Begins tid (.inr (.handleWebhook context body)))
    (hold : Remembers d s) :
    Safe (paymentSystem d) (Remembers d) tid
      (fun result later => Remembers d later ∧ ∀ time, othersAreDuplicates later.trace
        ⟨tid, time, .finished (.inr (.handleWebhook context body)) (result.map .value)⟩ = true)
      (handleWebhook d context body) s := by
  cases parsed : PaymentWebhookPayload.parse body with
  | none =>
      unfold handleWebhook
      rw [parsed]
      exact ⟨hold, fun _ => by simp [othersAreDuplicates, parsed]⟩
  | some payload =>
      have begun : s.trace.any (fun start =>
          deliveryOf tid start = some (payload.paymentId, payload.status)) = true :=
        any_of_saw begins.seen fun _ => by simp [deliveryOf, parsed]
      have keeps := webhookKeeps_remembers remote working begun
      apply (keeps.handleWebhook_safe parsed (List.prefix_refl _) hold (begins.ownFree rfl)).mono
      rintro result later _ ⟨holdLater, outcome⟩
      exact ⟨holdLater, othersAreDuplicates_of_outcome parsed outcome⟩

end Deliveries

theorem remembers_verified {d : Deployment payment} (remote : d.adapter = remoteAdapter)
    (working : d.environment = .working d.backend) :
    Verified (paymentSystem d) (Remembers d) := by
  have adapters (tid : Nat) (i : Invocation) :
      AdaptersKeep d (paymentService d) noPromise (Remembers d) tid i := by
    intro adapter s hold
    rw [remote]
    apply remoteAdapter_keeps _ hold
    intro now answer holdNow
    exact holdNow.note rfl rfl plain_adapter
  have stable : Stable d (paymentService d) noPromise (Remembers d) :=
    { closed := fun tid i => remembers_closed working
      adapters := adapters
      started := by
        intro s fresh call hold _
        apply hold.note rfl rfl
        refine ⟨?_, ?_, ?_⟩ <;> intro _ _ same <;> cases same
      finished := by
        intro s tid call result hold _ _
        apply hold.note rfl rfl
        refine ⟨?_, ?_, ?_⟩ <;> intro _ _ same <;> cases same
      external := fun s event state hold moved => remembers_external working hold moved }
  have charged {tid : Nat} {charge : Invocation} {later : PortSnapshot payment}
      (hold : Remembers d later) :
      Remembers d (later.log (paymentSystem d) tid (.marked (.inr (.charges charge)))) := by
    apply hold.note rfl rfl
    refine ⟨?_, ?_, ?_⟩ <;> intro _ _ same <;> cases same
  have finish {tid : Nat} {call : PaymentCall} {result : Except Exn Resolution}
      {later : PortSnapshot payment} (hold : Remembers d later)
      (ended : othersAreDuplicates later.trace
        ⟨tid, later.state.now, .finished (.inr call) result⟩ = true) :
      Remembers d (later.log (paymentSystem d) tid (.finished (.inr call) result)) := by
    apply hold.observe rfl
    · intro _ _
      exact lasts_of_uncached rfl fun _ _ same => by cases same
    · exact effectLaw_of_ne fun _ _ same => by cases same
    · exact ended
  apply stable.verified
  intro s tid call hold begins
  cases call with
  | createPayment context customerId body =>
      apply (safe_map _ _ _ s).mpr
      apply (createPayment_safe (stable.closed tid) (stable.adapters tid) _ hold).mono
      · intro result later _ holdLater
        exact finish holdLater rfl
      · intro request result later _ _ holdLater _ _
        exact charged holdLater
  | createBatchPayment context customerId body =>
      apply (safe_map _ _ _ s).mpr
      apply (createBatchPayment_safe (stable.closed tid) (stable.adapters tid) _ hold).mono
      · intro result later _ holdLater
        exact finish holdLater rfl
      · intro request totalAmount later _ _ holdLater _
        exact charged holdLater
  | handleWebhook context body =>
      apply (safe_map _ _ _ s).mpr
      apply (handleWebhook_remembers remote working begins hold).mono
      rintro result later _ ⟨holdLater, ended⟩
      exact finish holdLater (ended _)

/-! ### Two deliveries -/

section Apart

variable {wiring : Wiring} {environment : CacheEnvironment} {s : PortSnapshot payment}

theorem keyless_of_apart {trace : PortTrace payment}
    (apart : Passes (deliveriesApart wiring) trace) : keyless trace = true := by
  unfold keyless
  rw [List.all_eq_true]
  intro entry member
  obtain ⟨before, after, split⟩ := List.append_of_mem member
  have checked := apart before entry after split
  split
  · rename_i adapter i outcome event
    simpa [deliveriesApart, event] using checked
  · rfl

theorem time_le_of_split {trace before middle after : PortTrace payment}
    {earlier entry : PortTraceEntry payment}
    (ordered : Always (fun before entry => ∀ earlier ∈ before, earlier.time ≤ entry.time) trace)
    (split : trace = (before ++ earlier :: middle) ++ entry :: after) :
    earlier.time ≤ entry.time :=
  ordered _ entry after split earlier (by simp)

/-- The lookups of one delivery by two tasks: the later one misses only after the record of
the earlier one. -/
theorem recorded_of_apart {before after : PortTrace payment} {first second time later : Nat}
    {payload : PaymentWebhookPayload} {reply other : Reply JsValue} {past pastOther : PortTrace payment}
    {middle : PortTrace payment} (apart : Passes (deliveriesApart wiring) s.trace)
    (split : s.trace = before ++ ⟨second, later,
      .answered (.inl (.cache (.get (webhookKey payload.paymentId)))) reply⟩ :: after)
    (missed : recalls reply = false)
    (earlier : before = past ++ ⟨first, time,
      .answered (.inl (.cache (.get (webhookKey payload.paymentId)))) other⟩ :: middle)
    (missedOther : recalls other = false) (different : first ≠ second)
    (begun : past.any (fun start =>
      deliveryOf first start = some (payload.paymentId, payload.status)) = true)
    (grown : pastOther <+: before)
    (begunOther : pastOther.any (fun start =>
      deliveryOf second start = some (payload.paymentId, payload.status)) = true) :
    wiring.backend.kind = .memory ∧ ∃ record ∈ before, record.tid = first ∧
      recordsResult (webhookKey payload.paymentId) record = true := by
  have checked := apart before _ after split
  simp only [deliveriesApart, missed, Bool.false_or] at checked
  have member : (⟨first, time, .answered (.inl (.cache (.get (webhookKey payload.paymentId))))
      other⟩ : PortTraceEntry payment) ∈ before := by
    rw [earlier]
    simp
  have same : sameDelivery before first second = true := by
    obtain ⟨start, early, starts⟩ := List.any_eq_true.mp begun
    obtain ⟨otherStart, otherEarly, otherStarts⟩ := List.any_eq_true.mp begunOther
    rw [decide_eq_true_eq] at starts otherStarts
    unfold sameDelivery
    rw [List.any_eq_true]
    refine ⟨start, by rw [earlier]; simp [early], ?_⟩
    rw [List.any_eq_true]
    exact ⟨otherStart, grown.subset otherEarly, by simp [starts, otherStarts]⟩
  have verdict := List.all_eq_true.mp checked _ member
  simp only [missesLookup, missedOther, same, different, decide_true, Bool.not_false,
    Bool.and_true, Bool.not_true, decide_false, Bool.or_false, Bool.false_or, Bool.and_eq_true,
    decide_eq_true_eq, List.any_eq_true] at verdict
  obtain ⟨memory, record, recorded, own, records⟩ := verdict
  exact ⟨memory, record, recorded, own, records⟩

theorem setsKey_of_recordsResult {key : String} {entry : PortTraceEntry payment}
    (records : recordsResult key entry = true) : setsKey key entry.event = true := by
  unfold recordsResult at records
  split at records
  · rename_i written value ttl done event
    rw [event]
    exact records
  · cases records

theorem effectOf_eq_some {entry : PortTraceEntry payment} {delivery : String × WebhookStatus}
    (affects : effectOf entry = some delivery) :
    ∃ payload effect, entry.event = .marked (.inr (.affects payload effect)) ∧
      delivery = (payload.paymentId, payload.status) := by
  unfold effectOf at affects
  split at affects
  · rename_i payload effect event
    exact ⟨payload, effect, event, (Option.some.inj affects).symm⟩
  · cases affects

/-- The record of a task comes after the side effect that it had not recorded at, so it is
no older. -/
theorem time_le_record {d : Deployment payment} (hold : Remembers d s)
    {front rest after : PortTrace payment} {earlier record : PortTraceEntry payment} {key : String}
    (split : s.trace = (front ++ earlier :: rest) ++ after)
    (free : OwnFree earlier.tid (setsKey key) front) (own : record.tid = earlier.tid)
    (records : recordsResult key record = true) (member : record ∈ front ++ earlier :: rest) :
    earlier.time ≤ record.time := by
  rcases List.mem_append.mp member with inFront | other
  · have unset := free record inFront own
    rw [setsKey_of_recordsResult records] at unset
    cases unset
  · rcases List.mem_cons.mp other with rfl | inRest
    · exact Nat.le_refl _
    · obtain ⟨middle, tail, rfl⟩ := List.append_of_mem inRest
      have placed : s.trace = (front ++ earlier :: middle) ++ record :: (tail ++ after) := by
        rw [split]
        simp
      exact time_le_of_split hold.ordered placed

/-- Two tasks that carry out the same delivery are an hour apart. -/
theorem affectedOnce_of_apart {d : Deployment payment} (hold : Remembers d s)
    (backend : d.backend = wiring.backend) (apart : Passes (deliveriesApart wiring) s.trace) :
    Passes affectedOnce s.trace := by
  intro before entry after split
  simp only [affectedOnce, Option.all_eq_true, List.all_eq_true, Bool.or_eq_true,
    Bool.not_eq_true', decide_eq_false_iff_not, decide_eq_true_eq]
  intro delivery affects earlier member
  by_contra violated
  rw [not_or, not_or, not_not] at violated
  obtain ⟨⟨affectsEarlier, different⟩, early⟩ := violated
  obtain ⟨payload, effect, event, rfl⟩ := effectOf_eq_some affects
  obtain ⟨other, otherEffect, otherEvent, same⟩ := effectOf_eq_some affectsEarlier
  obtain ⟨sameId, sameStatus⟩ := Prod.mk.inj same
  obtain ⟨front, rest, rfl⟩ := List.append_of_mem member
  obtain ⟨⟨past, reply, begun, missed, seen⟩, free⟩ := hold.effects _ entry after split payload effect event
  obtain ⟨⟨pastOther, replyOther, begunOther, missedOther, seenOther⟩, freeOther⟩ :=
    hold.effects front earlier (rest ++ entry :: after) (by rw [split]; simp) other otherEffect
      otherEvent
  rw [← sameId, ← sameStatus] at begunOther
  rw [← sameId] at seenOther freeOther
  obtain ⟨atMiss, missTime, afterMiss, splitMiss, grown⟩ := seen
  obtain ⟨atOther, otherTime, afterOther, splitOther, grownOther⟩ := seenOther
  have missAt : s.trace = atMiss ++ ⟨entry.tid, missTime,
      .answered (.inl (.cache (.get (webhookKey payload.paymentId)))) reply⟩ ::
        (afterMiss ++ entry :: after) := by
    rw [split, splitMiss]
    simp
  have otherAt : s.trace = atOther ++ ⟨earlier.tid, otherTime,
      .answered (.inl (.cache (.get (webhookKey payload.paymentId)))) replyOther⟩ ::
        (afterOther ++ earlier :: (rest ++ entry :: after)) := by
    rw [split, splitOther]
    simp
  rcases split_order (otherAt.symm.trans missAt) with ⟨-, same⟩ | ⟨middle, later⟩ | ⟨middle, later⟩
  · injection same with sameTid
    exact different sameTid
  · -- the other one looked up first: its record was there, and then it was no longer kept
    obtain ⟨memory, record, recorded, own, records⟩ :=
      recorded_of_apart apart missAt missed later missedOther different
        (any_of_grown grownOther begunOther) grown begun
    have gone := hold.misses (backend ▸ memory) (keyless_of_apart apart) atMiss _ _ missAt
      payload.paymentId (by simp [missesLookup, missed]) record recorded records
    have placed : record ∈ front ++ earlier :: rest := by
      rw [splitMiss]
      exact List.mem_append_left _ recorded
    have recordedLater := time_le_record hold split freeOther own records placed
    have lookedUp := split
    rw [splitMiss] at lookedUp
    have looked : missTime ≤ entry.time := time_le_of_split hold.ordered lookedUp
    have apartTimes : record.time + RETENTION < missTime := gone
    omega
  · -- this one looked up first, but it has recorded nothing yet
    obtain ⟨-, record, recorded, own, records⟩ :=
      recorded_of_apart apart otherAt missedOther later missed (Ne.symm different)
        (any_of_grown grown begun) grownOther begunOther
    have unset := free record (by
      rw [splitOther]
      simp [recorded]) own
    rw [setsKey_of_recordsResult records] at unset
    cases unset

end Apart

/-! ### Whole runs -/

abbrev workingDeployment (wiring : Wiring) : Deployment payment :=
  paymentDeployment wiring (.working wiring.backend)

/-- In every run over a cache that works and in which deliveries are kept apart, each
delivery takes effect once in the time its result is kept; the others are duplicates. -/
theorem webhook_delivered_once (wiring : Wiring) (world : World payment)
    (p : Pool (portSignature payment) Resolution)
    (reached : Reachable (paymentSystem (workingDeployment wiring)) world p)
    (apart : Passes (deliveriesApart wiring) p.snapshot.trace) :
    Passes deliveredOnce p.snapshot.trace := by
  have remembers : Remembers (workingDeployment wiring) p.snapshot :=
    (remembers_verified rfl rfl).reachable (remembers_nil world) reached
  have once := affectedOnce_of_apart remembers rfl apart
  intro before entry after split
  rw [deliveredOnce, once before entry after split, remembers.ended before entry after split,
    Bool.and_true]

/-! ### A delivery that takes effect twice -/

def onceWorld : World payment := bareWorld 1700000000000 .empty .empty .empty

def misses (tid : Nat) : WebhookAction :=
  .answer tid (.inl (.cache (.get (webhookKey "PAY-1")))) (Reply.ok .null)

def failedDelivery : WebhookAction := .call (.inr (.handleWebhook none (webhookBody "failed")))

/-- The gateway repeats a delivery while the first one is under way. -/
def overlapping : List WebhookAction :=
  [failedDelivery, .resume 0, failedDelivery, .resume 1, misses 0, .resume 0, misses 1, .resume 1]

/-- The gateway repeats a delivery that was recorded. -/
def repeated : List WebhookAction :=
  delivers 0 "failed" [] ++
    [failedDelivery, .resume 1,
      .answer 1 (.inl (.cache (.get (webhookKey "PAY-1")))) (Reply.ok (webhookEnvelope "failed")),
      .resume 1]

/-- Both deliveries miss, and both notify. -/
theorem webhook_delivered_twice :
    ∃ p, Reachable (paymentSystem (workingDeployment webhookWiring)) onceWorld p ∧
      ¬ Passes deliveredOnce p.snapshot.trace :=
  ⟨_, reachable_run (paymentSystem (workingDeployment webhookWiring)) onceWorld overlapping
    (by decide +kernel), by decide +kernel⟩

theorem webhook_delivered_once_repeated :
    ∃ p, Reachable (paymentSystem (workingDeployment webhookWiring)) onceWorld p ∧
      p.snapshot.trace.any (fun entry => (effectOf entry).isSome) = true ∧
      Passes deliveredOnce p.snapshot.trace :=
  ⟨_, reachable_run (paymentSystem (workingDeployment webhookWiring)) onceWorld repeated
      (by decide +kernel), by decide +kernel,
    webhook_delivered_once webhookWiring onceWorld _
      (reachable_run (paymentSystem (workingDeployment webhookWiring)) onceWorld repeated
        (by decide +kernel))
      (by decide +kernel)⟩

end SelfService
