/-
What an accepted payment promises.

A rejection with `PortQueuedException` is answered with 202.  The exception says
that some port call was queued; the client reads it as a promise about the whole
payment.
-/

import SelfService.Payment.AmountProvenance

namespace SelfService

open Data EventLoop PortRegistry PaymentService

variable {wiring : Wiring} {environment : CacheEnvironment}

def startsCharge (tid : Nat) (entry : PortTraceEntry payment) : Bool :=
  match entry.event with
  | .started (.inr (.createPayment _ _ _)) => entry.tid = tid
  | .started (.inr (.createBatchPayment _ _ _)) => entry.tid = tid
  | _ => false

/-- The invoice read that was handed to the queue, if this is one. -/
def queuesRead (entry : PortTraceEntry payment) : Bool :=
  match entry.event with
  | .answered (.inl (.queueAdd payload)) (Reply.ok _) => payload.portName = "invoice"
  | _ => false

/-- No charge has an invoice read queued. -/
def readsAreNotQueued (trace : PortTrace payment) : Bool :=
  trace.all fun entry => !trace.any (startsCharge entry.tid) || !queuesRead entry

/-- The job repeats the charge that this call asks for. -/
def repeats (payload : ReplayJobPayload) : PaymentCall → Bool
  | .createPayment _ customerId body =>
      payload.portName = "payment" && payload.method = "create-payment" &&
        payload.params.field "customerId" = .str customerId &&
        payload.params.field "invoiceId" = body.field "invoiceId" &&
        payload.params.field "method" = body.field "method"
  | .createBatchPayment _ customerId body =>
      payload.portName = "payment" && payload.method = "create-batch-payment" &&
        payload.params.field "customerId" = .str customerId &&
        payload.params.field "invoiceIds" = body.field "invoiceIds" &&
        payload.params.field "method" = body.field "method"
  | .handleWebhook _ _ => false

def queuedJob (call : PaymentCall) (tid : Nat) (entry : PortTraceEntry payment) : Bool :=
  match entry.event with
  | .answered (.inl (.queueAdd payload)) (Reply.ok _) => entry.tid = tid && repeats payload call
  | _ => false

/-- A payment that ends as queued left its own charge with the queue. -/
def acceptedIsQueued (before : PortTrace payment) (entry : PortTraceEntry payment) : Bool :=
  match entry.event with
  | .finished (.inr call) (.error (.portQueued _ _)) => before.any (queuedJob call entry.tid)
  | _ => true

abbrev AcceptedQueued : PortTrace payment → Prop :=
  Guarded (fun trace => readsAreNotQueued trace = true)
    fun before entry => acceptedIsQueued before entry = true

theorem readsAreNotQueued_earlier (early late : PortTrace payment) (grown : early <+: late)
    (direct : readsAreNotQueued late = true) : readsAreNotQueued early = true := by
  unfold readsAreNotQueued at direct ⊢
  rw [List.all_eq_true] at direct ⊢
  intro entry member
  have checked := direct entry (grown.subset member)
  cases starts : early.any (startsCharge entry.tid) with
  | false => simp
  | true =>
      rw [any_of_grown grown starts] at checked
      simpa using checked

theorem AcceptedQueued.snoc {trace : PortTrace payment} {entry : PortTraceEntry payment}
    (hold : AcceptedQueued trace)
    (law : readsAreNotQueued (trace ++ [entry]) = true → acceptedIsQueued trace entry = true) :
    AcceptedQueued (trace ++ [entry]) :=
  Guarded.snoc readsAreNotQueued_earlier hold law

/-- Only the end of a payment is affected by the law. -/
theorem AcceptedQueued.keep {trace : PortTrace payment} {entry : PortTraceEntry payment}
    (hold : AcceptedQueued trace)
    (other : ∀ call result, entry.event ≠ .finished (.inr call) result) :
    AcceptedQueued (trace ++ [entry]) := by
  apply hold.snoc
  intro _
  unfold acceptedIsQueued
  split
  · rename_i call portName jobId event
    exact absurd event (other call _)
  · rfl

theorem acceptedQueued_stable (wiring : Wiring) (environment : CacheEnvironment) :
    Stable (paymentDeployment wiring environment)
      (paymentService (paymentDeployment wiring environment)) noPromise
      (fun s => AcceptedQueued s.trace) := by
  apply stable_of_trace rfl
  · intro trace entry registry hold
    apply hold.keep
    intro call result event
    rw [event] at registry
    cases registry
  · intro trace entry call event hold
    apply hold.keep
    intro other result same
    rw [event] at same
    cases same
  · intro trace entry call result event hold
    apply hold.keep
    intro other ended same
    rw [event] at same
    cases same

section Bodies

variable {s : PortSnapshot payment} {tid : Nat} {context : Option RequestContext}
  {customerId : String} {body : JsValue}

/-- A queued rejection of the call rests on one of its own jobs: the charge, or a read. -/
def QueuedBy (call : PaymentCall) (tid : Nat) (result : Except Exn JsValue)
    (trace : PortTrace payment) : Prop :=
  ∀ portName jobId, result = .error (.portQueued portName jobId) →
    trace.any (queuedJob call tid) = true ∨
      ∃ entry ∈ trace, entry.tid = tid ∧ queuesRead entry = true

theorem queuesRead_of_saw {trace : PortTrace payment} {invoiceId : String} {reply : Option String}
    (seen : Saw trace tid (.answered (.inl (.queueAdd
      (replayPayload (invoiceRead context customerId invoiceId)))) (Reply.ok reply))) :
    ∃ entry ∈ trace, entry.tid = tid ∧ queuesRead entry = true := by
  obtain ⟨time, member⟩ := seen
  exact ⟨_, member, rfl, by simp [queuesRead, replayPayload, invoiceRead]⟩

/-- What the second step of a payment adds: its own charge may be queued. -/
theorem charge_safe {call : PaymentCall} {charge : Invocation}
    (repeated : repeats (replayPayload charge) call = true) (hold : AcceptedQueued s.trace)
    {next : PortResult → PaymentTask JsValue}
    (plain : ∀ result, (∃ value, next result = .done value) ∨
      ∃ error, next result = .fail error ∧ ∀ portName jobId, error ≠ .portQueued portName jobId) :
    Safe (paymentSystem (paymentDeployment wiring environment)) (fun s => AcceptedQueued s.trace) tid
      (fun result later => AcceptedQueued later.trace ∧ QueuedBy call tid result later.trace)
      (do
        Task.note (.inr (.charges charge))
        let result ← PortRegistry.execute (paymentDeployment wiring environment) charge
        next result) s := by
  have stable := acceptedQueued_stable wiring environment
  rw [safe_note, safe_bind]
  have charged : AcceptedQueued (s.log (paymentSystem (paymentDeployment wiring environment)) tid
      (.marked (.inr (.charges charge)))).trace :=
    hold.keep fun _ _ same => by cases same
  apply ((stable.closed tid _).execute (stable.adapters tid _) charged).mono
  rintro paid final - ⟨holdFinal, outcome⟩
  cases paid with
  | error error =>
      refine ⟨holdFinal, ?_⟩
      rintro portName jobId same
      cases same
      obtain ⟨reply, seen⟩ := outcome.saw_queued
      left
      exact any_of_saw seen fun time => by simp [queuedJob, repeated]
  | ok paid =>
      rcases plain paid with ⟨value, done⟩ | ⟨error, failed, other⟩
      · simp only [done]
        exact ⟨holdFinal, fun _ _ same => by cases same⟩
      · simp only [failed]
        exact ⟨holdFinal, fun portName jobId same =>
          absurd (Except.error.inj same) (other portName jobId)⟩

theorem createPayment_queued (hold : AcceptedQueued s.trace) :
    Safe (paymentSystem (paymentDeployment wiring environment)) (fun s => AcceptedQueued s.trace) tid
      (fun result later => AcceptedQueued later.trace ∧
        QueuedBy (.createPayment context customerId body) tid result later.trace)
      (createPayment (paymentDeployment wiring environment) context customerId body) s := by
  have stable := acceptedQueued_stable wiring environment
  unfold createPayment
  cases parsed : CreatePaymentRequest.parse body with
  | none => exact ⟨hold, fun _ _ same => by cases same⟩
  | some request =>
      simp only
      rw [safe_bind]
      apply (verifyInvoice_safe request.invoiceId (stable.closed tid) (stable.adapters tid)
        hold).mono
      rintro result later - ⟨holdLater, outcome⟩
      cases result with
      | error error =>
          refine ⟨holdLater, ?_⟩
          rintro portName jobId same
          cases same
          obtain ⟨reply, seen⟩ := outcome.saw_queued
          exact Or.inr (queuesRead_of_saw seen)
      | ok invoice =>
          apply charge_safe _ holdLater
          · intro paid
            split
            · exact Or.inl ⟨_, rfl⟩
            · exact Or.inr ⟨_, rfl, fun _ _ same => by cases same⟩
          · obtain ⟨invoiceId, method⟩ := CreatePaymentRequest.fields_of_parse parsed
            simp [repeats, replayPayload, charge, List.lookup_cons, invoiceId, method]

theorem createBatchPayment_queued (hold : AcceptedQueued s.trace) :
    Safe (paymentSystem (paymentDeployment wiring environment)) (fun s => AcceptedQueued s.trace) tid
      (fun result later => AcceptedQueued later.trace ∧
        QueuedBy (.createBatchPayment context customerId body) tid result later.trace)
      (createBatchPayment (paymentDeployment wiring environment) context customerId body) s := by
  have stable := acceptedQueued_stable wiring environment
  unfold createBatchPayment
  cases parsed : CreateBatchPaymentRequest.parse body with
  | none => exact ⟨hold, fun _ _ same => by cases same⟩
  | some request =>
      simp only
      rw [safe_bind]
      apply (verifyInvoices_safe request.invoiceIds _ (stable.closed tid) (stable.adapters tid)
        hold).mono
      rintro result later - ⟨holdLater, queued⟩
      cases result with
      | error error =>
          refine ⟨holdLater, ?_⟩
          intro portName jobId same
          obtain ⟨invoiceId, reply, seen⟩ := queued portName jobId (Except.error.inj same)
          exact Or.inr (queuesRead_of_saw seen)
      | ok totalAmount =>
          apply charge_safe _ holdLater
          · intro paid
            split
            · exact Or.inr ⟨_, rfl, fun _ _ same => by cases same⟩
            · exact Or.inl ⟨_, rfl⟩
          · obtain ⟨invoiceIds, method⟩ := CreateBatchPaymentRequest.fields_of_parse parsed
            simp [repeats, replayPayload, batchCharge, List.lookup_cons, invoiceIds, method]

/-- A delivery never ends as queued. -/
theorem handleWebhook_queued (hold : AcceptedQueued s.trace) :
    Safe (paymentSystem (paymentDeployment wiring environment)) (fun s => AcceptedQueued s.trace) tid
      (fun result later => AcceptedQueued later.trace ∧
        ∀ portName jobId, result ≠ .error (.portQueued portName jobId))
      (handleWebhook (paymentDeployment wiring environment) context body) s := by
  apply handleWebhook_trace (Q := AcceptedQueued) rfl _ hold
  intro trace entry plain holdTrace
  apply holdTrace.keep
  intro call result event
  rw [event] at plain
  rcases plain with registry | ⟨payload, effect, other⟩
  · cases registry
  · cases other

/-- The end of a call, once its queued rejection is accounted for. -/
theorem finish_queued {call : PaymentCall} {result : Except Exn JsValue}
    (starts : s.trace.any (startsCharge tid) = true ∨ ∀ portName jobId,
      result ≠ .error (.portQueued portName jobId)) (time : Nat)
    (hold : AcceptedQueued s.trace) (queued : QueuedBy call tid result s.trace) :
    AcceptedQueued (s.trace ++ [⟨tid, time, .finished (.inr call) (result.map .value)⟩]) := by
  apply hold.snoc
  intro direct
  have directBefore := readsAreNotQueued_earlier _ _ (List.prefix_append _ _) direct
  cases result with
  | ok value => rfl
  | error error =>
      unfold acceptedIsQueued
      split
      · rename_i other portName jobId event
        cases event
        rcases queued portName jobId rfl with job | ⟨read, member, own, reads⟩
        · exact job
        · rcases starts with starts | other
          · have checked := List.all_eq_true.mp directBefore read member
            rw [own, starts, reads] at checked
            cases checked
          · exact absurd rfl (other portName jobId)
      · rfl

end Bodies

/-- In every run in which no charge has an invoice read queued, a payment that is
answered with 202 was queued. -/
theorem accepted_is_queued (wiring : Wiring) (environment : CacheEnvironment)
    (world : World payment) (p : Pool (portSignature payment) Resolution)
    (reached : Reachable (paymentSystem (paymentDeployment wiring environment)) world p)
    (direct : readsAreNotQueued p.snapshot.trace = true) :
    Passes acceptedIsQueued p.snapshot.trace := by
  have verified : Verified (paymentSystem (paymentDeployment wiring environment))
      (fun s => AcceptedQueued s.trace) := by
    apply (acceptedQueued_stable wiring environment).verified
    intro s tid call hold begins
    cases call with
    | createPayment context customerId body =>
        apply (safe_map _ _ _ s).mpr
        apply (createPayment_queued hold).mono
        rintro result later extends_ ⟨holdLater, queued⟩
        apply finish_queued _ _ holdLater queued
        left
        exact any_of_saw (begins.seen.mono extends_) fun _ => by simp [startsCharge]
    | createBatchPayment context customerId body =>
        apply (safe_map _ _ _ s).mpr
        apply (createBatchPayment_queued hold).mono
        rintro result later extends_ ⟨holdLater, queued⟩
        apply finish_queued _ _ holdLater queued
        left
        exact any_of_saw (begins.seen.mono extends_) fun _ => by simp [startsCharge]
    | handleWebhook context body =>
        apply (safe_map _ _ _ s).mpr
        apply (handleWebhook_queued hold).mono
        rintro result later _ ⟨holdLater, other⟩
        apply finish_queued (Or.inr other) _ holdLater
        intro portName jobId same
        exact absurd same (other portName jobId)
  exact verified.reachable (guarded_nil _ _) reached direct

/-! ### A payment that was never queued -/

/-- The queue is enabled; the digest is that of the only read below. -/
def queueWiring : Wiring :=
  .configured true (fun _ => ⟨"e3b0c44298fc1c14", isHex_empty⟩)
    fun _ => ⟨"d29ad42d4a509ebb", isHex_params⟩

abbrev queueDeployment : Deployment payment := paymentDeployment queueWiring .any

/-- The adapter of a port times out. -/
def timesOut (portName method : String) (params : JsValue) : PaymentAction :=
  .answer 0 (.inl (.adapter ⟨portName, .mock⟩ none method params))
    (Except.error (.portTimeout portName 3000))

def queues (i : Invocation) : PaymentAction :=
  .answer 0 (.inl (.queueAdd (replayPayload i))) (Reply.ok (some "1"))

/-- A charge up to the answer of its invoice read. -/
def readStarts : List PaymentAction :=
  [.call (.inr (.createPayment none "KH-1" chargeBody)), .resume 0,
    .answer 0 (.inl (.cache (.get chargeReadKey))) (Reply.ok .null), .resume 0]

def queuedRead : List PaymentAction :=
  readStarts ++ [timesOut "invoice" "get-by-id" chargeRead.params, .resume 0,
    queues chargeRead, .resume 0]

/-- The charge of the invoice above. -/
def theCharge : Invocation :=
  charge none "KH-1" ⟨"HD-1", .qrCode, by decide⟩ (.num 105000)

def queuedCharge : List PaymentAction :=
  readStarts ++
    [.answer 0 (.inl (.adapter ⟨"invoice", .mock⟩ none "get-by-id" chargeRead.params))
        (Except.ok unpaidInvoice),
      .resume 0,
      .answer 0 (.inl (.cache (.set chargeReadKey unpaidEntry (some 900)))) (Reply.ok ()),
      .resume 0, timesOut "payment" "create-payment" theCharge.params, .resume 0,
      queues theCharge, .resume 0]

def isAccepted (entry : PortTraceEntry payment) : Bool :=
  match entry.event with
  | .finished (.inr _) (.error (.portQueued _ _)) => true
  | _ => false

/-- The invoice read is queued, and the payment is answered with 202. -/
theorem accepted_never_queued :
    ∃ p, Reachable (paymentSystem queueDeployment) paymentWorld p ∧
      ¬ Passes acceptedIsQueued p.snapshot.trace :=
  ⟨_, reachable_run (paymentSystem queueDeployment) paymentWorld queuedRead (by decide +kernel),
    by decide +kernel⟩

theorem accepted_is_queued_charge :
    ∃ p, Reachable (paymentSystem queueDeployment) paymentWorld p ∧
      p.snapshot.trace.any isAccepted = true ∧ Passes acceptedIsQueued p.snapshot.trace :=
  ⟨_, reachable_run (paymentSystem queueDeployment) paymentWorld queuedCharge (by decide +kernel),
    by decide +kernel,
    accepted_is_queued queueWiring .any paymentWorld _
      (reachable_run (paymentSystem queueDeployment) paymentWorld queuedCharge (by decide +kernel))
      (by decide +kernel)⟩

end SelfService
