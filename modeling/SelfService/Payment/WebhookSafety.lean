/-
What one webhook delivery can do, and how it can end.

The delivery looks its payment up, carries out its side effects and records its
result.  `WebhookKeeps` collects what an invariant has to survive for this, with
the evidence each step can rely on; facts about the delivery's own events may be
carried up to the recording.
-/

import SelfService.Payment.PaymentService
import SelfService.Port.Deletion

namespace SelfService

open Data EventLoop PortRegistry PaymentService

theorem exists_part_of_sawSince {S : Signature} {ρ : Type} {past trace : Trace S ρ} {tid : Nat}
    {event : Event S ρ} (seen : SawSince past trace tid event) :
    ∃ part time, trace = past ++ part ∧ ⟨tid, time, event⟩ ∈ part := by
  obtain ⟨before, time, after, rfl, middle, rfl⟩ := seen
  exact ⟨middle ++ ⟨tid, time, event⟩ :: after, time, by simp, by simp⟩

/-! ### Lookups -/

/-- The key of a payment in the cache of the idempotency service. -/
def webhookKey (paymentId : String) : String := IdempotencyService.buildCacheKey paymentId none

/-- The reply is an envelope on which the lookup does not stumble. -/
def recalls : Reply JsValue → Bool
  | .ok cached =>
      cached.truthy && match cached.field "storedAt" with
        | .date _ => true
        | _ => false
  | .failed _ _ => false

/-- What the lookup answers, as a function of the cache's reply. -/
def existingOf (reply : Reply JsValue) : JsValue := if recalls reply then reply.getD .null else .null

theorem existingOf_truthy (reply : Reply JsValue) : (existingOf reply).truthy = recalls reply := by
  unfold existingOf
  cases reply with
  | failed applied reason => rfl
  | ok cached =>
      cases recalled : recalls (.ok cached) with
      | false => rfl
      | true =>
          unfold recalls at recalled
          rw [Bool.and_eq_true] at recalled
          simp [Reply.getD, recalled.1]

theorem checked_of_recalls {cached : JsValue} (recalled : recalls (.ok cached) = true) :
    (IdempotencyService.checked cached : PaymentTask JsValue) = .done cached := by
  unfold recalls at recalled
  rw [Bool.and_eq_true] at recalled
  unfold IdempotencyService.checked
  rw [if_pos recalled.1]
  split
  · rfl
  · rename_i noDate
    obtain ⟨_, dated⟩ := recalled
    split at dated
    · rename_i date stored
      exact absurd stored (noDate date)
    · cases dated

theorem checked_of_not_recalls {cached : JsValue} (missed : recalls (.ok cached) = false) :
    (IdempotencyService.checked cached : PaymentTask JsValue) = .done .null ∨
      (IdempotencyService.checked cached : PaymentTask JsValue) =
        .fail IdempotencyService.notADate := by
  unfold IdempotencyService.checked
  cases truthy : cached.truthy with
  | false => exact Or.inl (if_neg (by simp))
  | true =>
      right
      rw [if_pos rfl]
      split
      · rename_i date stored
        simp [recalls, truthy, stored] at missed
      · rfl

/-! ### Steps -/

section Delivery

variable {d : Deployment payment} {Inv : PortSnapshot payment → Prop}
  {P : PortTrace payment → Prop} {tid : Nat} {s : PortSnapshot payment}
  {past : PortTrace payment} {payload : PaymentWebhookPayload}

/-- What a delivery knows when it carries out a side effect: its lookup missed, and a
success deleted both patterns before it notifies. -/
structure Warranted (past trace : PortTrace payment) (tid : Nat) (payload : PaymentWebhookPayload)
    (effect : WebhookEffect) : Prop where
  missed : ∃ reply, recalls reply = false ∧
    SawSince past trace tid (.answered (.inl (.cache (.get (webhookKey payload.paymentId)))) reply)
  wiped : effect = .notifies → payload.status = .success →
    WipedSince past trace invoicePattern ∧ WipedSince past trace debtPattern

def erasedPatterns : List String := [invoicePattern, debtPattern]

/-- The commands that delete one of the two patterns. -/
def Erases : CacheCommand → Prop
  | .deleteByPattern pattern | .keys pattern => pattern ∈ erasedPatterns
  | .del _ => True
  | _ => False

/-- The snapshot after a cache command of the delivery was answered. -/
def told (d : Deployment payment) (tid : Nat) (now : PortSnapshot payment) (cache : Store)
    (command : CacheCommand) (answer : command.Answer) : PortSnapshot payment :=
  (⟨{ now.state with cache := cache }, now.trace⟩ : PortSnapshot payment).log (paymentSystem d) tid
    (.answered (.inl (.cache command)) answer)

/-- The invariant survives a delivery that began after `past`; up to the recording, so does the
fact `P` about its own events. -/
structure WebhookKeeps (d : Deployment payment) (Inv : PortSnapshot payment → Prop)
    (P : PortTrace payment → Prop) (tid : Nat) (past : PortTrace payment)
    (payload : PaymentWebhookPayload) : Prop where
  own : OwnFact tid P
  closed : ∀ i, i.idempotencyKey = none →
    Closed d (paymentService d) noPromise (fun s => Inv s ∧ P s.trace) tid i
  adapters : ∀ i, AdaptersKeep d (paymentService d) noPromise (fun s => Inv s ∧ P s.trace) tid i
  looksUp : ∀ now reply cache, past <+: now.trace → Inv now ∧ P now.trace →
    d.environment.answers now.state.now now.state.cache
      (.get (webhookKey payload.paymentId)) reply = true →
    d.backend.perform now.state.now now.state.cache
      (.get (webhookKey payload.paymentId)) reply = some cache →
    let after := told d tid now cache (.get (webhookKey payload.paymentId)) reply
    Inv after ∧ P after.trace
  affects : ∀ now effect, past <+: now.trace → Inv now ∧ P now.trace →
    Warranted past now.trace tid payload effect →
    let after := now.log (paymentSystem d) tid (.marked (.inr (.affects payload effect)))
    Inv after ∧ P after.trace
  erases : ∀ now command answer cache, Erases command → past <+: now.trace →
    Inv now ∧ P now.trace →
    d.environment.answers now.state.now now.state.cache command answer = true →
    d.backend.perform now.state.now now.state.cache command answer = some cache →
    let after := told d tid now cache command answer
    Inv after ∧ P after.trace
  records : ∀ now time reply cache, past <+: now.trace → Inv now →
    SawSince past now.trace tid (.marked (.inr (.affects payload .notifies))) →
    let command := .set (webhookKey payload.paymentId)
      (IdempotencyService.envelope time (processedResult payload) "HandlePaymentWebhook"
        IdempotencyService.DEFAULT_TTL) (some IdempotencyService.DEFAULT_TTL)
    d.environment.answers now.state.now now.state.cache command reply = true →
    d.backend.perform now.state.now now.state.cache command reply = some cache →
    Inv (told d tid now cache command reply)

/-- How a delivery can end. -/
inductive WebhookOutcome (d : Deployment payment) (tid : Nat) (payload : PaymentWebhookPayload)
    (past trace : PortTrace payment) : Except Exn JsValue → Prop
  | duplicate (reply : Reply JsValue) (recalled : recalls reply = true)
      (seen : SawSince past trace tid
        (.answered (.inl (.cache (.get (webhookKey payload.paymentId)))) reply)) :
      WebhookOutcome d tid payload past trace (.ok (duplicateResult payload))
  | processed
      (notified : SawSince past trace tid (.marked (.inr (.affects payload .notifies)))) :
      WebhookOutcome d tid payload past trace (.ok (processedResult payload))
  | failed (reason : String) (server : d.backend.kind = .redis) (effect : WebhookEffect)
      (begun : SawSince past trace tid (.marked (.inr (.affects payload effect)))) :
      WebhookOutcome d tid payload past trace (.error (.error reason))

namespace WebhookKeeps

variable (keeps : WebhookKeeps d Inv P tid past payload)

include keeps

/-- The lookup, with the reply it rests on. -/
theorem getExisting_safe (grown : past <+: s.trace) (hold : Inv s ∧ P s.trace) :
    Safe (paymentSystem d) (fun s => Inv s ∧ P s.trace) tid
      (fun result later => ∃ existing, result = .ok existing ∧
        ((Inv later ∧ P later.trace) ∧ ∃ reply, existing = existingOf reply ∧
          SawSince s.trace later.trace tid
            (.answered (.inl (.cache (.get (webhookKey payload.paymentId)))) reply)))
      (IdempotencyService.getExisting paymentHost payload.paymentId none) s := by
  unfold IdempotencyService.getExisting
  simp only [show paymentHost.cacheService = true from rfl, if_true]
  rw [safe_bind, safe_attempt]
  unfold IdempotencyService.lookup
  apply safe_cache hold
  · intro now reply cache extends_ holdNow allowed served
    exact keeps.looksUp now reply cache (grown.trans extends_) holdNow allowed served
  · intro reply later extends_ holdLater seen _
    have answer {existing : JsValue} (same : existing = existingOf reply) :
        ∃ value, Except.ok existing = (.ok value : Except Exn JsValue) ∧
          ((Inv later ∧ P later.trace) ∧ ∃ reply, value = existingOf reply ∧
            SawSince s.trace later.trace tid
              (.answered (.inl (.cache (.get (webhookKey payload.paymentId)))) reply)) :=
      ⟨existing, rfl, holdLater, reply, same, seen⟩
    change Safe _ _ _ _ (IdempotencyService.checked (reply.getD .null)) later
    cases reply with
    | failed applied reason => exact answer rfl
    | ok cached =>
        cases recalled : recalls (.ok cached) with
        | true =>
            have found : existingOf (.ok cached) = cached := by
              simp [existingOf, recalled, Reply.getD]
            rw [Reply.getD, checked_of_recalls recalled]
            exact answer found.symm
        | false =>
            have missed : existingOf (.ok cached) = .null := by simp [existingOf, recalled]
            rcases checked_of_not_recalls recalled with none | threw
            · rw [Reply.getD, none]
              exact answer missed.symm
            · rw [Reply.getD, threw]
              exact answer missed.symm

/-- One deletion; only the server can fail. -/
theorem invalidate_safe {pattern : String} (listed : pattern ∈ erasedPatterns)
    (grown : past <+: s.trace)
    (hold : Inv s ∧ P s.trace)
    (warranted : Warranted past s.trace tid payload (.invalidates pattern)) :
    Safe (paymentSystem d) (fun s => Inv s ∧ P s.trace) tid
      (fun result later => (Inv later ∧ P later.trace) ∧ s.Extends later ∧
        match result with
        | .ok _ => WipedSince past later.trace pattern
        | .error error => d.backend.kind = .redis ∧ (∃ reason, error = .error reason) ∧
            SawSince past later.trace tid (.marked (.inr (.affects payload (.invalidates pattern)))))
      (PaymentService.invalidate d payload pattern) s := by
  unfold PaymentService.invalidate
  rw [safe_note]
  have marked := keeps.affects s _ grown hold warranted
  have step := Snapshot.extends_log (paymentSystem d) s tid
    (.marked (.inr (.affects payload (.invalidates pattern))))
  have grownMarked := grown.trans step
  have begun : SawSince past (s.log (paymentSystem d) tid
      (.marked (.inr (.affects payload (.invalidates pattern))))).trace tid
      (.marked (.inr (.affects payload (.invalidates pattern)))) :=
    ⟨s.trace, _, [], rfl, grown⟩
  unfold CacheService.deleteByPattern
  cases kind : d.backend.kind with
  | memory =>
      apply safe_cache marked
      · intro now answer cache extends_ holdNow allowed served
        exact keeps.erases now (.deleteByPattern pattern) answer cache listed
          (grownMarked.trans extends_) holdNow allowed served
      · intro answer later extends_ holdLater seen served
        have after := step.trans extends_
        cases answer with
        | failed applied reason =>
            obtain ⟨time, store, cache, served⟩ := served
            simp [Backend.perform, Backend.performMemory, kind] at served
        | ok count =>
            refine ⟨holdLater, after, ?_⟩
            obtain ⟨part, time, split, member⟩ :=
              exists_part_of_sawSince (seen.since grownMarked)
            exact ⟨part, split, .atOnce tid time count member⟩
  | redis =>
      apply safe_cache marked
      · intro now answer cache extends_ holdNow allowed served
        exact keeps.erases now (.keys pattern) answer cache listed
          (grownMarked.trans extends_) holdNow allowed served
      · intro answer noted extends_ holdListed seen _
        have afterListed := step.trans extends_
        obtain ⟨before, time, since, split, early⟩ := seen.since grownMarked
        cases answer with
        | failed applied reason =>
            exact ⟨holdListed, afterListed, rfl, ⟨reason, rfl⟩, begun.mono extends_⟩
        | ok fullKeys =>
            cases fullKeys with
            | nil =>
                refine ⟨holdListed, afterListed, ?_⟩
                obtain ⟨part, time, split, member⟩ :=
                  exists_part_of_sawSince (seen.since grownMarked)
                exact ⟨part, split, .nothing tid time member⟩
            | cons fullKey rest =>
                apply safe_cache holdListed
                · intro now answer cache again holdNow allowed served
                  exact keeps.erases now (.del (fullKey :: rest)) answer cache trivial
                    ((grown.trans afterListed).trans again) holdNow allowed served
                · intro answer later again holdLater swept _
                  have after := afterListed.trans again
                  cases answer with
                  | failed applied reason =>
                      exact ⟨holdLater, after, rfl, ⟨reason, rfl⟩,
                        (begun.mono extends_).mono again⟩
                  | ok done =>
                      refine ⟨holdLater, after, ?_⟩
                      obtain ⟨part, later, grownPart, member⟩ := exists_part_of_sawSince swept
                      obtain ⟨middle, rfl⟩ := early
                      refine ⟨middle ++ ⟨tid, time, _⟩ :: (since ++ part), ?_,
                        .listed tid time later (fullKey :: rest) middle (since ++ part) rfl ?_⟩
                      · rw [grownPart, split]
                        simp
                      · exact List.mem_append_right _ member

theorem notify_safe (notice : Invocation) (keyless : notice.idempotencyKey = none)
    (grown : past <+: s.trace) (hold : Inv s ∧ P s.trace)
    (warranted : Warranted past s.trace tid payload .notifies) :
    Safe (paymentSystem d) (fun s => Inv s ∧ P s.trace) tid
      (fun result later => ∃ value, result = .ok value ∧ ((Inv later ∧ P later.trace) ∧
        SawSince past later.trace tid (.marked (.inr (.affects payload .notifies)))))
      (PaymentService.notify d payload notice) s := by
  unfold PaymentService.notify
  rw [safe_note, safe_bind, safe_attempt]
  have marked := keeps.affects s _ grown hold warranted
  have seen : SawSince past (s.log (paymentSystem d) tid
      (.marked (.inr (.affects payload .notifies)))).trace tid
      (.marked (.inr (.affects payload .notifies))) :=
    ⟨s.trace, _, [], rfl, grown⟩
  apply ((keeps.closed notice keyless).execute (keeps.adapters notice) marked).mono
  rintro result later extends_ ⟨holdLater, _⟩
  exact ⟨(), rfl, holdLater, seen.mono extends_⟩

/-- The side effects come in the order of the source, each with its evidence. -/
theorem process_safe (context : Option RequestContext) (grown : past <+: s.trace)
    (hold : Inv s ∧ P s.trace)
    (missed : ∃ reply, recalls reply = false ∧ SawSince past s.trace tid
      (.answered (.inl (.cache (.get (webhookKey payload.paymentId)))) reply)) :
    Safe (paymentSystem d) (fun s => Inv s ∧ P s.trace) tid
      (fun result later => (Inv later ∧ P later.trace) ∧
        match result with
        | .ok _ => SawSince past later.trace tid (.marked (.inr (.affects payload .notifies)))
        | .error error => d.backend.kind = .redis ∧ (∃ reason, error = .error reason) ∧
            ∃ effect, SawSince past later.trace tid (.marked (.inr (.affects payload effect))))
      (PaymentService.process d context payload) s := by
  have missedLater {later : PortSnapshot payment} (extends_ : s.Extends later) :
      ∃ reply, recalls reply = false ∧ SawSince past later.trace tid
        (.answered (.inl (.cache (.get (webhookKey payload.paymentId)))) reply) := by
    obtain ⟨reply, miss, seen⟩ := missed
    exact ⟨reply, miss, seen.mono extends_⟩
  unfold PaymentService.process
  cases status : payload.status with
  | failed =>
      simp only
      apply (keeps.notify_safe _ rfl grown hold ⟨missed, fun _ success => by
        rw [status] at success
        cases success⟩).mono
      rintro result later _ ⟨value, rfl, holdLater, seen⟩
      exact ⟨holdLater, seen⟩
  | success =>
      simp only
      rw [safe_bind]
      apply (keeps.invalidate_safe (by simp [erasedPatterns]) grown hold
        ⟨missed, fun notifies => by cases notifies⟩).mono
      rintro result first _ ⟨holdFirst, toFirst, wiped⟩
      cases result with
      | error error =>
          obtain ⟨server, failed, begun⟩ := wiped
          exact ⟨holdFirst, server, failed, _, begun⟩
      | ok value =>
          simp only at wiped ⊢
          rw [safe_bind]
          apply (keeps.invalidate_safe (by simp [erasedPatterns]) (grown.trans toFirst) holdFirst
            ⟨missedLater toFirst, fun notifies => by cases notifies⟩).mono
          rintro result second _ ⟨holdSecond, toSecond, wipedDebt⟩
          cases result with
          | error error =>
              obtain ⟨server, failed, begun⟩ := wipedDebt
              exact ⟨holdSecond, server, failed, _, begun⟩
          | ok value =>
              simp only at wipedDebt ⊢
              have toNotice := toFirst.trans toSecond
              apply (keeps.notify_safe _ rfl (grown.trans toNotice) holdSecond
                ⟨missedLater toNotice, fun _ _ => ⟨wiped.mono toSecond, wipedDebt⟩⟩).mono
              rintro result later _ ⟨value, rfl, holdLater, seen⟩
              exact ⟨holdLater, seen⟩

/-- Whether or not the result could be stored, the delivery goes on. -/
theorem store_safe (grown : past <+: s.trace) (hold : Inv s)
    (notified : SawSince past s.trace tid (.marked (.inr (.affects payload .notifies)))) :
    Safe (paymentSystem d) Inv tid
      (fun result later => ∃ value, result = .ok value ∧ Inv later)
      (IdempotencyService.store paymentHost payload.paymentId (processedResult payload)
        "HandlePaymentWebhook" none) s := by
  unfold IdempotencyService.store
  simp only [show paymentHost.cacheService = true from rfl, if_true]
  rw [safe_read, safe_bind, safe_attempt]
  apply safe_cache hold
  · intro now reply cache extends_ holdNow allowed served
    exact keeps.records now s.state.now reply cache (grown.trans extends_) holdNow
      (notified.mono extends_) allowed served
  · intro reply later _ holdLater _ _
    cases reply with
    | ok done => exact ⟨(), rfl, holdLater⟩
    | failed applied reason => exact ⟨(), rfl, holdLater⟩

/-- A whole delivery. -/
theorem handleWebhook_safe {context : Option RequestContext} {body : JsValue}
    (parsed : PaymentWebhookPayload.parse body = some payload) (grown : past <+: s.trace)
    (hold : Inv s) (fact : P s.trace) :
    Safe (paymentSystem d) Inv tid
      (fun result later => Inv later ∧ WebhookOutcome d tid payload past later.trace result)
      (PaymentService.handleWebhook d context body) s := by
  unfold PaymentService.handleWebhook
  rw [parsed]
  simp only
  apply Safe.andThen (Safe.withOwn keeps.own (keeps.getExisting_safe grown ⟨hold, fact⟩))
  rintro existing now extends_ ⟨⟨holdNow, factNow⟩, reply, rfl, seen⟩
  have grownNow := grown.trans extends_
  have seenNow := seen.since grown
  rw [existingOf_truthy]
  split
  · rename_i recalled
    exact ⟨holdNow, .duplicate reply recalled seenNow⟩
  · rename_i missed
    rw [Bool.not_eq_true] at missed
    rw [safe_bind]
    apply (Safe.withOwn keeps.own (keeps.process_safe context grownNow ⟨holdNow, factNow⟩
      ⟨reply, missed, seenNow⟩)).mono
    rintro result later toLater ⟨⟨holdLater, _⟩, ended⟩
    cases result with
    | error error =>
        obtain ⟨server, ⟨reason, rfl⟩, effect, begun⟩ := ended
        exact ⟨holdLater, .failed reason server effect begun⟩
    | ok value =>
        simp only at ended ⊢
        apply Safe.andThen (keeps.store_safe (grownNow.trans toLater) holdLater ended)
        rintro _ final toFinal holdFinal
        exact ⟨holdFinal, .processed (ended.mono toFinal)⟩

end WebhookKeeps

/-- What a delivery and the registry log, apart from the ends. -/
def Unremarkable (event : PortEvent payment) : Prop :=
  OfRegistry event ∨ ∃ payload effect, event = .marked (.inr (.affects payload effect))

/-- Properties of traces that survive such events survive a delivery. -/
theorem webhookKeeps_of_trace {Q : PortTrace payment → Prop} (remote : d.adapter = remoteAdapter)
    (kept : ∀ trace entry, Unremarkable entry.event → Q trace → Q (trace ++ [entry])) :
    WebhookKeeps d (fun s => Q s.trace) (fun _ => True) tid past payload := by
  have registry (trace : PortTrace payment) (entry : PortTraceEntry payment)
      (event : OfRegistry entry.event) (hold : Q trace ∧ True) :
      Q (trace ++ [entry]) ∧ True :=
    ⟨kept trace entry (Or.inl event) hold.1, trivial⟩
  constructor
  · exact fun _ _ _ fact => fact
  · intro i _
    exact closed_of_trace registry tid i
  · intro i
    exact adaptersKeep_of_trace remote registry tid i
  · intro now reply cache _ hold _ _
    apply registry now.trace _ _ hold
    trivial
  · intro now effect _ hold _
    exact ⟨kept now.trace _ (Or.inr ⟨payload, effect, rfl⟩) hold.1, trivial⟩
  · intro now command answer cache _ _ hold _ _
    apply registry now.trace _ _ hold
    trivial
  · intro now time reply cache _ hold _ command _ _
    apply kept now.trace _ (Or.inl _) hold
    trivial

/-- A delivery keeps such a property, and is never rejected as queued. -/
theorem handleWebhook_trace {Q : PortTrace payment → Prop} {context : Option RequestContext}
    {body : JsValue} (remote : d.adapter = remoteAdapter)
    (kept : ∀ trace entry, Unremarkable entry.event → Q trace → Q (trace ++ [entry]))
    (hold : Q s.trace) :
    Safe (paymentSystem d) (fun s => Q s.trace) tid
      (fun result later => Q later.trace ∧
        ∀ portName jobId, result ≠ .error (.portQueued portName jobId))
      (PaymentService.handleWebhook d context body) s := by
  cases parsed : PaymentWebhookPayload.parse body with
  | none =>
      unfold PaymentService.handleWebhook
      rw [parsed]
      exact ⟨hold, fun _ _ same => by cases same⟩
  | some payload =>
      have keeps : WebhookKeeps d (fun s => Q s.trace) (fun _ => True) tid s.trace payload :=
        webhookKeeps_of_trace remote kept
      apply (keeps.handleWebhook_safe parsed (List.prefix_refl _) hold trivial).mono
      rintro result later _ ⟨holdLater, outcome⟩
      refine ⟨holdLater, ?_⟩
      rintro portName jobId same
      rw [same] at outcome
      cases outcome

end Delivery

end SelfService
