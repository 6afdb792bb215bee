/-
What a successful payment leaves of the read caches.

A success delivery deletes the cached invoices and debts.  Deliveries are told
apart by their payment alone, so a recorded failure of the same payment makes a
success look like a duplicate.
-/

import Mathlib.Data.List.TakeWhile
import SelfService.EventLoop.History
import SelfService.Payment.Charges
import SelfService.Payment.WebhookSafety

namespace SelfService

open Data EventLoop PortRegistry PaymentService

/-! ### Observations -/

/-- The payment whose success this call delivers. -/
def successOf : PaymentCall → Option String
  | .handleWebhook _ body =>
      (PaymentWebhookPayload.parse body).bind fun payload =>
        if payload.status = .success then some payload.paymentId else none
  | _ => none

def startsSuccess (paymentId : String) (entry : PortTraceEntry payment) : Bool :=
  match entry.event with
  | .started (.inr call) => successOf call = some paymentId
  | _ => false

def returnsSuccess (paymentId : String) (entry : PortTraceEntry payment) : Bool :=
  match entry.event with
  | .finished (.inr call) (.ok _) => successOf call = some paymentId
  | _ => false

/-- A success delivery of this payment gets as far as its notification. -/
def carriesOut (paymentId : String) (entry : PortTraceEntry payment) : Bool :=
  match entry.event with
  | .marked (.inr (.affects payload .notifies)) =>
      payload.paymentId = paymentId && payload.status = .success
  | _ => false

/-- If this starts task `tid` with a success that is looked up under the key, one of its
payment was carried out. -/
def followsSuccess (before : PortTrace payment) (tid : Nat) (key : String)
    (start : PortTraceEntry payment) : Bool :=
  match start.event with
  | .started (.inr call) =>
      !(start.tid = tid) || (successOf call).all fun paymentId =>
        !(webhookKey paymentId = key) || before.any (carriesOut paymentId)
  | _ => true

/-- A success delivery finds a recorded result only after one of its payment was
carried out. -/
def hitsFollowSuccess (before : PortTrace payment) (entry : PortTraceEntry payment) : Bool :=
  match entry.event with
  | .answered (.inl (.cache (.get key))) reply =>
      !recalls reply || before.all (followsSuccess before entry.tid key)
  | _ => true

/-- Every entry of the invoice and debt caches was written after the first success
delivery of the payment came in. -/
def ReadsAreFresh (d : Deployment payment) (paymentId : String) (s : PortSnapshot payment) : Prop :=
  ∀ portName ∈ ["invoice", "debt"], ∀ hash, present d s.state (cacheKeyOf portName hash) = true →
    (s.trace.dropWhile fun entry => !startsSuccess paymentId entry).any
      (writesKey (cacheKeyOf portName hash)) = true

/-! ### The invariant -/

/-- Both patterns were deleted after a success delivery of the payment came in. -/
def DeletedSinceStart (paymentId : String) (trace : PortTrace payment) : Prop :=
  ∀ portName ∈ ["invoice", "debt"], ∃ past, past.any (startsSuccess paymentId) = true ∧
    WipedSince past trace (portPattern portName)

abbrev CarriedOut : PortTrace payment → Prop :=
  Always fun before entry => ∀ paymentId, carriesOut paymentId entry = true →
    DeletedSinceStart paymentId before

abbrev Returned : PortTrace payment → Prop :=
  Guarded (Passes hitsFollowSuccess) fun before entry => ∀ paymentId,
    returnsSuccess paymentId entry = true → before.any (carriesOut paymentId) = true

structure Invalidates (d : Deployment payment) (s : PortSnapshot payment) : Prop where
  swept : Swept d s
  carried : CarriedOut s.trace
  returned : Returned s.trace

/-- An event that neither notifies nor ends a delivery. -/
def Incidental (event : PortEvent payment) : Prop :=
  (∀ payload, event ≠ .marked (.inr (.affects payload .notifies))) ∧
    ∀ call result, event ≠ .finished (.inr call) result

variable {d : Deployment payment} {s : PortSnapshot payment}

theorem CarriedOut.snoc {trace : PortTrace payment} {entry : PortTraceEntry payment}
    (hold : CarriedOut trace)
    (law : ∀ paymentId, carriesOut paymentId entry = true → DeletedSinceStart paymentId trace) :
    CarriedOut (trace ++ [entry]) :=
  always_snoc.mpr ⟨hold, law⟩

theorem Returned.snoc {trace : PortTrace payment} {entry : PortTraceEntry payment}
    (hold : Returned trace)
    (law : Passes hitsFollowSuccess trace → ∀ paymentId, returnsSuccess paymentId entry = true →
      trace.any (carriesOut paymentId) = true) : Returned (trace ++ [entry]) := by
  apply Guarded.snoc (fun _ _ grown passes => passes.earlier grown) hold
  intro passes
  exact law (passes.earlier (List.prefix_append _ _))

theorem CarriedOut.keep {trace : PortTrace payment} {entry : PortTraceEntry payment}
    (hold : CarriedOut trace)
    (other : ∀ payload, entry.event ≠ .marked (.inr (.affects payload .notifies))) :
    CarriedOut (trace ++ [entry]) := by
  apply hold.snoc
  intro paymentId carried
  unfold carriesOut at carried
  split at carried
  · rename_i payload event
    exact absurd event (other payload)
  · cases carried

theorem Returned.keep {trace : PortTrace payment} {entry : PortTraceEntry payment}
    (hold : Returned trace) (other : ∀ call result, entry.event ≠ .finished (.inr call) result) :
    Returned (trace ++ [entry]) := by
  apply hold.snoc
  intro _ paymentId returned
  unfold returnsSuccess at returned
  split at returned
  · rename_i call value event
    exact absurd event (other call _)
  · cases returned

theorem Invalidates.observe (hold : Invalidates d s) {world : World payment} {tid : Nat}
    {event : PortEvent payment} (shows : Shows d s.state world event)
    (incidental : Incidental event) :
    Invalidates d ((⟨world, s.trace⟩ : PortSnapshot payment).log (paymentSystem d) tid event) where
  swept := hold.swept.observe shows
  carried := hold.carried.keep incidental.1
  returned := hold.returned.keep incidental.2

theorem Invalidates.incidental (hold : Invalidates d s) {tid : Nat} {event : PortEvent payment}
    (other : Uncached event) (incidental : Incidental event) :
    Invalidates d (s.log (paymentSystem d) tid event) :=
  hold.observe (shows_of_uncached (fun _ there => there) other) incidental

theorem incidental_of_registry {event : PortEvent payment} (registry : OfRegistry event) :
    Incidental event := by
  constructor
  · intro payload same
    rw [same] at registry
    cases registry
  · intro call result same
    rw [same] at registry
    cases registry

theorem invalidates_closed (tid : Nat) (i : Invocation) :
    Closed d (paymentService d) noPromise (Invalidates d) tid i := by
  intro s later step hold
  constructor
  · exact swept_closed tid i s later step hold.swept
  · exact closed_of_trace (P := CarriedOut) (fun trace entry registry old =>
      old.keep (incidental_of_registry registry).1) tid i s later step hold.carried
  · exact closed_of_trace (P := Returned) (fun trace entry registry old =>
      old.keep (incidental_of_registry registry).2) tid i s later step hold.returned

theorem invalidates_adapters (remote : d.adapter = remoteAdapter) (tid : Nat) (i : Invocation) :
    AdaptersKeep d (paymentService d) noPromise (Invalidates d) tid i := by
  intro adapter s hold
  rw [remote]
  apply remoteAdapter_keeps _ hold
  intro now answer holdNow
  apply holdNow.incidental
  · intro _ _ same
    cases same
  · exact incidental_of_registry trivial

theorem invalidates_stable (remote : d.adapter = remoteAdapter) :
    Stable d (paymentService d) noPromise (Invalidates d) where
  closed := invalidates_closed
  adapters := invalidates_adapters remote
  started s fresh call hold _ := by
    apply hold.incidental
    · intro _ _ same
      cases same
    · constructor
      · intro _ same
        cases same
      · intro _ _ same
        cases same
  finished s tid call result hold _ _ := by
    apply hold.incidental
    · intro _ _ same
      cases same
    · constructor
      · intro _ same
        cases same
      · intro _ _ same
        cases same
  external s event state hold moved :=
    ⟨swept_external hold.swept moved, hold.carried, hold.returned⟩

/-! ### Deliveries -/

section Deliveries

variable {tid : Nat} {payload : PaymentWebhookPayload} {past : PortTrace payment}

theorem told_invalidates (hold : Invalidates d s) {command : CacheCommand}
    {answer : command.Answer} {cache : Store}
    (served : d.backend.perform s.state.now s.state.cache command answer = some cache) :
    Invalidates d (told d tid s cache command answer) :=
  hold.observe (shows_of_command served) (incidental_of_registry trivial)

/-- The mark of a success that notifies comes after both deletions. -/
theorem affects_invalidates
    (begun : payload.status = .success → past.any (startsSuccess payload.paymentId) = true)
    {effect : WebhookEffect} (hold : Invalidates d s)
    (warranted : Warranted past s.trace tid payload effect) :
    Invalidates d (s.log (paymentSystem d) tid (.marked (.inr (.affects payload effect)))) where
  swept := hold.swept.note fun _ _ same => by cases same
  carried := by
    apply hold.carried.snoc
    intro paymentId carried portName listed
    cases effect with
    | invalidates pattern => cases carried
    | notifies =>
        simp only [carriesOut, Bool.and_eq_true, decide_eq_true_eq] at carried
        obtain ⟨rfl, success⟩ := carried
        obtain ⟨invoices, debts⟩ := warranted.wiped rfl success
        refine ⟨past, begun success, ?_⟩
        rcases List.mem_cons.mp listed with rfl | other
        · exact invoices
        · rw [List.mem_singleton.mp other]
          exact debts
  returned := hold.returned.keep fun _ _ same => by cases same

theorem webhookKeeps_invalidates (remote : d.adapter = remoteAdapter)
    (begun : payload.status = .success → past.any (startsSuccess payload.paymentId) = true) :
    WebhookKeeps d (Invalidates d) (fun _ => True) tid past payload where
  own _ _ _ fact := fact
  closed i _ s later step hold := ⟨invalidates_closed tid i s later step hold.1, trivial⟩
  adapters i := by simpa using invalidates_adapters remote tid i
  looksUp now reply cache _ hold _ served := ⟨told_invalidates hold.1 served, trivial⟩
  affects now effect _ hold warranted := ⟨affects_invalidates begun hold.1 warranted, trivial⟩
  erases now command answer cache _ _ hold _ served := ⟨told_invalidates hold.1 served, trivial⟩
  records now time reply cache _ hold _ := by
    intro command _ served
    exact told_invalidates hold served

/-- However a success delivery ended, one of its payment was carried out. -/
theorem carriedOut_of_outcome {context : Option RequestContext} {body result : JsValue}
    (parsed : PaymentWebhookPayload.parse body = some payload)
    (success : payload.status = .success)
    (started : Saw past tid (.started (.inr (.handleWebhook context body))))
    (outcome : WebhookOutcome d tid payload past s.trace (.ok result))
    (follow : Passes hitsFollowSuccess s.trace) :
    s.trace.any (carriesOut payload.paymentId) = true := by
  cases outcome with
  | processed notified =>
      exact any_of_saw notified.saw fun _ => by simp [carriesOut, success]
  | duplicate reply recalled seen =>
      obtain ⟨before, time, after, split, early⟩ := seen
      have checked := follow before _ after split
      simp only [hitsFollowSuccess, recalled, Bool.not_true, Bool.false_or] at checked
      obtain ⟨begun, member⟩ := started
      have ownStart := List.all_eq_true.mp checked _ (early.subset member)
      simp only [followsSuccess, successOf, parsed, Option.bind_some, success, if_true,
        Option.all_some, decide_true, Bool.not_true, Bool.false_or] at ownStart
      exact any_of_grown ⟨_, split.symm⟩ ownStart

theorem handleWebhook_invalidates (remote : d.adapter = remoteAdapter)
    {context : Option RequestContext} {body : JsValue}
    (started : s.Saw tid (.started (.inr (.handleWebhook context body)))) (hold : Invalidates d s) :
    Safe (paymentSystem d) (Invalidates d) tid
      (fun result later => Invalidates d later ∧
        ∀ value, result = .ok value → Passes hitsFollowSuccess later.trace →
          ∀ paymentId, successOf (.handleWebhook context body) = some paymentId →
            later.trace.any (carriesOut paymentId) = true)
      (handleWebhook d context body) s := by
  cases parsed : PaymentWebhookPayload.parse body with
  | none =>
      unfold handleWebhook
      rw [parsed]
      exact ⟨hold, fun _ same => by cases same⟩
  | some payload =>
      have begun (success : payload.status = .success) :
          s.trace.any (startsSuccess payload.paymentId) = true :=
        any_of_saw started fun _ => by simp [startsSuccess, successOf, parsed, success]
      have keeps : WebhookKeeps d (Invalidates d) (fun _ => True) tid s.trace payload :=
        webhookKeeps_invalidates remote begun
      apply (keeps.handleWebhook_safe parsed (List.prefix_refl _) hold trivial).mono
      rintro result later _ ⟨holdLater, outcome⟩
      refine ⟨holdLater, ?_⟩
      rintro value rfl follow paymentId delivered
      simp only [successOf, parsed, Option.bind_some] at delivered
      obtain ⟨success, same⟩ := Option.ite_none_right_eq_some.mp delivered
      rw [← Option.some.inj same]
      exact carriedOut_of_outcome parsed success started outcome follow

end Deliveries

/-- The end of a call, once a success it delivered is accounted for. -/
theorem Invalidates.finish (hold : Invalidates d s) {tid : Nat} {call : PaymentCall}
    {result : Except Exn Resolution}
    (law : ∀ value, result = .ok value → Passes hitsFollowSuccess s.trace →
      ∀ paymentId, successOf call = some paymentId →
        s.trace.any (carriesOut paymentId) = true) :
    Invalidates d (s.log (paymentSystem d) tid (.finished (.inr call) result)) where
  swept := hold.swept.note fun _ _ same => by cases same
  carried := hold.carried.keep fun _ same => by cases same
  returned := by
    apply hold.returned.snoc
    intro follow paymentId returned
    cases result with
    | error error => cases returned
    | ok value => exact law value rfl follow paymentId (by simpa [returnsSuccess] using returned)

theorem invalidates_verified (remote : d.adapter = remoteAdapter) :
    Verified (paymentSystem d) (Invalidates d) := by
  have stable := invalidates_stable remote
  have charged {tid : Nat} {charge : Invocation} {later : PortSnapshot payment}
      (hold : Invalidates d later) :
      Invalidates d (later.log (paymentSystem d) tid (.marked (.inr (.charges charge)))) := by
    apply hold.incidental
    · intro _ _ same
      cases same
    · constructor
      · intro _ same
        cases same
      · intro _ _ same
        cases same
  apply stable.verified
  intro s tid call hold begins
  cases call with
  | createPayment context customerId body =>
      apply (safe_map _ _ _ s).mpr
      apply (createPayment_safe (stable.closed tid) (stable.adapters tid) _ hold).mono
      · intro result later _ holdLater
        exact holdLater.finish fun _ _ _ _ other => by cases other
      · intro request result later _ _ holdLater _ _
        exact charged holdLater
  | createBatchPayment context customerId body =>
      apply (safe_map _ _ _ s).mpr
      apply (createBatchPayment_safe (stable.closed tid) (stable.adapters tid) _ hold).mono
      · intro result later _ holdLater
        exact holdLater.finish fun _ _ _ _ other => by cases other
      · intro request totalAmount later _ _ holdLater _
        exact charged holdLater
  | handleWebhook context body =>
      apply (safe_map _ _ _ s).mpr
      apply (handleWebhook_invalidates remote begins.seen hold).mono
      rintro result later _ ⟨holdLater, law⟩
      apply holdLater.finish
      intro value returned
      cases result with
      | error error => cases returned
      | ok result => exact law result rfl

/-! ### Whole runs -/

/-- What was deleted after the first success came in, and is present, was written since. -/
theorem readsAreFresh_of_deleted {paymentId : String} (swept : Swept d s)
    {before : PortTrace payment} (grown : before <+: s.trace)
    (deleted : DeletedSinceStart paymentId before) : ReadsAreFresh d paymentId s := by
  intro portName listed hash there
  obtain ⟨past, begun, wiped⟩ := deleted portName listed
  obtain ⟨part, split, complete⟩ := wiped.mono grown
  have plain : plainText portName = true := by
    rcases List.mem_cons.mp listed with rfl | other
    · decide
    · rw [List.mem_singleton.mp other]
      decide
  have wrote := swept.wiped _ _ past part (selected_portPattern d plain hash) split complete there
  rw [split, List.dropWhile_append, if_neg, List.any_append, wrote, Bool.or_true]
  rw [List.isEmpty_iff, List.dropWhile_eq_nil_iff]
  intro never
  obtain ⟨entry, member, starts⟩ := List.any_eq_true.mp begun
  simpa [starts] using never entry member

/-- In every run in which a success delivery finds a recorded result only after one of
its payment was carried out, a success that returned leaves no older entry behind. -/
theorem success_invalidates (wiring : Wiring) (environment : CacheEnvironment)
    (world : World payment) (p : Pool (portSignature payment) Resolution)
    (reached : Reachable (paymentSystem (paymentDeployment wiring environment)) world p)
    (follow : Passes hitsFollowSuccess p.snapshot.trace) (paymentId : String)
    (returned : p.snapshot.trace.any (returnsSuccess paymentId) = true) :
    ReadsAreFresh (paymentDeployment wiring environment) paymentId p.snapshot := by
  have invalidates : Invalidates (paymentDeployment wiring environment) p.snapshot :=
    (invalidates_verified rfl).reachable
      ⟨swept_nil world, always_nil _, guarded_nil _ _⟩ reached
  obtain ⟨entry, member, returns⟩ := List.any_eq_true.mp returned
  obtain ⟨before, after, split⟩ := List.append_of_mem member
  have carried := invalidates.returned follow before entry after split paymentId returns
  have carriedNow := any_of_grown ⟨_, split.symm⟩ carried
  obtain ⟨mark, marked, carries⟩ := List.any_eq_true.mp carriedNow
  obtain ⟨early, late, splitMark⟩ := List.append_of_mem marked
  exact readsAreFresh_of_deleted invalidates.swept ⟨_, splitMark.symm⟩
    (invalidates.carried early mark late splitMark paymentId carries)

/-! ### A success that is swallowed -/

def webhookWiring : Wiring :=
  .configured false (fun _ => ⟨"e3b0c44298fc1c14", isHex_empty⟩)
    fun _ => ⟨"d29ad42d4a509ebb", isHex_params⟩

abbrev webhookDeployment : Deployment payment := paymentDeployment webhookWiring .any

def cachedInvoice : JsValue :=
  .obj [("data", .obj [("invoiceId", .str "HD-1"), ("paymentStatus", .str "unpaid")]),
    ("cachedAt", .str "2023-11-14T22:13:20.000Z")]

/-- An invoice was read a moment ago. -/
def webhookWorld : World payment :=
  bareWorld 1700000000000
    (OrderedMap.empty.set "ioc::cache:v2:port:invoice:d29ad42d4a509ebb"
      ⟨cachedInvoice, some 1700000900000⟩) .empty .empty

def webhookBody (status : String) : JsValue :=
  .obj [("paymentId", .str "PAY-1"), ("invoiceId", .str "HD-1"), ("customerId", .str "KH-1"),
    ("amount", .num 105000), ("status", .str status), ("timestamp", .str "2023-11-14T22:13:20Z")]

def webhookEnvelope (status : String) : JsValue :=
  IdempotencyService.envelope 1700000000000
    (.obj [("processed", .bool true), ("paymentId", .str "PAY-1"), ("status", .str status)])
    "HandlePaymentWebhook" 3600

abbrev WebhookAction := Action (portSignature payment) PortExternal

/-- One delivery without a notification port, from its lookup to its record. -/
def delivers (tid : Nat) (status : String) (deletions : List WebhookAction) :
    List WebhookAction :=
  [.call (.inr (.handleWebhook none (webhookBody status))), .resume tid,
    .answer tid (.inl (.cache (.get (webhookKey "PAY-1")))) (Reply.ok .null), .resume tid] ++
    deletions ++
    [.answer tid (.inl (.cache (.set (webhookKey "PAY-1") (webhookEnvelope status) (some 3600))))
      (Reply.ok ()), .resume tid]

/-- A second delivery of the payment, while the envelope of a failure is kept. -/
def duplicateDelivery : List WebhookAction :=
  [.call (.inr (.handleWebhook none (webhookBody "success"))), .resume 1,
    .answer 1 (.inl (.cache (.get (webhookKey "PAY-1")))) (Reply.ok (webhookEnvelope "failed")),
    .resume 1]

def memoryDeletions : List WebhookAction :=
  [.answer 0 (.inl (.cache (.deleteByPattern invoicePattern))) (Reply.ok 1), .resume 0,
    .answer 0 (.inl (.cache (.deleteByPattern debtPattern))) (Reply.ok 0), .resume 0]

/-- The payment failed first; its success is taken for a duplicate. -/
theorem success_swallowed :
    ∃ p, Reachable (paymentSystem webhookDeployment) webhookWorld p ∧
      p.snapshot.trace.any (returnsSuccess "PAY-1") = true ∧
      ¬ ReadsAreFresh webhookDeployment "PAY-1" p.snapshot := by
  refine ⟨_, reachable_run (paymentSystem webhookDeployment) webhookWorld
    (delivers 0 "failed" [] ++ duplicateDelivery) (by decide +kernel), by decide +kernel, ?_⟩
  intro fresh
  have wrote := fresh "invoice" (by decide) ⟨"d29ad42d4a509ebb", isHex_params⟩ (by decide +kernel)
  revert wrote
  decide +kernel

theorem success_invalidates_first :
    ∃ p, Reachable (paymentSystem webhookDeployment) webhookWorld p ∧
      p.snapshot.trace.any (returnsSuccess "PAY-1") = true ∧
      ReadsAreFresh webhookDeployment "PAY-1" p.snapshot :=
  ⟨_, reachable_run (paymentSystem webhookDeployment) webhookWorld
      (delivers 0 "success" memoryDeletions) (by decide +kernel), by decide +kernel,
    success_invalidates webhookWiring .any webhookWorld _
      (reachable_run (paymentSystem webhookDeployment) webhookWorld
        (delivers 0 "success" memoryDeletions) (by decide +kernel))
      (by decide +kernel) "PAY-1" (by decide +kernel)⟩

end SelfService
