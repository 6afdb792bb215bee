/-
What a payment asks of the outside, at most.

A single charge reads one invoice and charges once, a batch reads every invoice it lists
and charges once, and a webhook delivery dispatches one notice.  Each of these goes to an
adapter at most once and is queued at most once, also counting the refreshes that nobody
waits for.
-/

import SelfService.Payment.BatchTotals
import SelfService.Port.Traffic

namespace SelfService

open Data EventLoop PaymentService

/-- A body that its schema rejects goes nowhere. -/
def PaymentCall.demand : PaymentCall → Demand
  | .createPayment _ _ body =>
      if (CreatePaymentRequest.parse body).isSome then executing "invoice" + executing "payment"
      else 0
  | .createBatchPayment _ _ body =>
      match CreateBatchPaymentRequest.parse body with
      | some request => request.invoiceIds.length • executing "invoice" + executing "payment"
      | none => 0
  | .handleWebhook _ body =>
      if (PaymentWebhookPayload.parse body).isSome then executing "notification" else 0

def paymentTariff : Tariff (portSignature payment) Demand :=
  portTariff (fun request => request.elim) PaymentCall.demand

section Programs

variable {wiring : Wiring} {environment : CacheEnvironment}

/-- The task costs at most the demand. -/
abbrev Takes (wiring : Wiring) (environment : CacheEnvironment) {α : Type} (task : PaymentTask α)
    (demand : Demand) : Prop :=
  task.Affords (paymentSystem (paymentDeployment wiring environment)) paymentTariff demand

theorem payment_adapters : AdaptersCostOnce (paymentSystem (paymentDeployment wiring environment))
    (fun request => request.elim) PaymentCall.demand (paymentDeployment wiring environment) :=
  fun ref context method params => remoteAdapter_costs ref context method params

theorem payment_execute_takes (invocation : Invocation) :
    Takes wiring environment (PortRegistry.execute (paymentDeployment wiring environment) invocation)
      (executing invocation.portName) :=
  PortRegistry.execute_costs payment_adapters invocation

/-! ### Charges -/

theorem verifyInvoice_takes (context : Option RequestContext) (customerId invoiceId : String) :
    Takes wiring environment
      (verifyInvoice (paymentDeployment wiring environment) context customerId invoiceId)
      (executing "invoice") := by
  unfold verifyInvoice
  apply (payment_execute_takes (PaymentService.invoiceRead context customerId invoiceId)).followed
  intro result
  change Task.Affords _ _ (ite _ (ite _ _ _) _) _
  split
  · split
    · exact trivial
    · exact trivial
  · exact trivial

/-- One read for every invoice of the batch. -/
theorem verifyInvoices_takes (context : Option RequestContext) (customerId : String)
    (invoiceIds : List String) (totalAmount : JsValue) :
    Takes wiring environment
      (verifyInvoices (paymentDeployment wiring environment) context customerId invoiceIds
        totalAmount)
      (invoiceIds.length • executing "invoice") := by
  induction invoiceIds generalizing totalAmount with
  | nil => exact trivial
  | cons invoiceId rest ih =>
      rw [List.length_cons, succ_nsmul']
      exact (verifyInvoice_takes context customerId invoiceId).bind fun invoice => ih _

theorem createPayment_takes (context : Option RequestContext) (customerId : String)
    (body : JsValue) :
    Takes wiring environment
      (createPayment (paymentDeployment wiring environment) context customerId body)
      (PaymentCall.createPayment context customerId body).demand := by
  simp only [createPayment, PaymentCall.demand]
  cases CreatePaymentRequest.parse body with
  | none => exact trivial
  | some request =>
      change Takes wiring environment (verifyInvoice _ context customerId _ >>= _)
        (executing "invoice" + executing "payment")
      apply (verifyInvoice_takes context customerId request.invoiceId).bind
      intro invoice
      refine ⟨executing "payment", (zero_add _).le, ?_⟩
      apply (payment_execute_takes (charge context customerId request _)).followed
      intro paid
      change Task.Affords _ _ (ite _ _ _) _
      split
      · exact trivial
      · exact trivial

theorem createBatchPayment_takes (context : Option RequestContext) (customerId : String)
    (body : JsValue) :
    Takes wiring environment
      (createBatchPayment (paymentDeployment wiring environment) context customerId body)
      (PaymentCall.createBatchPayment context customerId body).demand := by
  simp only [createBatchPayment, PaymentCall.demand]
  cases CreateBatchPaymentRequest.parse body with
  | none => exact trivial
  | some request =>
      apply (verifyInvoices_takes context customerId request.invoiceIds _).bind
      intro totalAmount
      refine ⟨executing "payment", (zero_add _).le, ?_⟩
      apply (payment_execute_takes (batchCharge context customerId request _)).followed
      intro paid
      change Task.Affords _ _ (ite _ _ _) _
      split
      · exact trivial
      · exact trivial

/-! ### Webhooks -/

theorem getExisting_takes (paymentId : String) :
    Takes wiring environment (IdempotencyService.getExisting paymentHost paymentId none) 0 := by
  have looked : Takes wiring environment
      (IdempotencyService.lookup (IdempotencyService.buildCacheKey paymentId none)) 0 := by
    apply (get_costs _).before
    intro cached
    unfold IdempotencyService.checked
    split
    · split
      · exact trivial
      · exact trivial
    · exact trivial
  apply looked.attempt.before
  intro outcome
  cases outcome with
  | ok cached => exact trivial
  | error error => exact trivial

theorem store_takes (paymentId commandType : String) (result : JsValue) :
    Takes wiring environment
      (IdempotencyService.store paymentHost paymentId result commandType none) 0 := by
  intro world
  exact (set_costs _ _ _).attempt.before fun _ => trivial

theorem invalidate_takes (payload : PaymentWebhookPayload) (pattern : String) :
    Takes wiring environment (invalidate (paymentDeployment wiring environment) payload pattern)
      0 :=
  ⟨0, (add_zero _).le, (deleteByPattern_costs _ _).before fun _ => trivial⟩

theorem notify_takes (payload : PaymentWebhookPayload) (notice : Invocation) :
    Takes wiring environment (notify (paymentDeployment wiring environment) payload notice)
      (executing notice.portName) :=
  ⟨executing notice.portName, (zero_add _).le,
    (payment_execute_takes notice).attempt.followed fun _ => trivial⟩

theorem process_takes (context : Option RequestContext) (payload : PaymentWebhookPayload) :
    Takes wiring environment (process (paymentDeployment wiring environment) context payload)
      (executing "notification") := by
  unfold process
  split
  · apply (invalidate_takes payload invoicePattern).before
    intro _
    apply (invalidate_takes payload debtPattern).before
    intro _
    exact notify_takes payload (completedNotice context payload)
  · exact notify_takes payload (failedNotice context payload)

theorem handleWebhook_takes (context : Option RequestContext) (body : JsValue) :
    Takes wiring environment
      (handleWebhook (paymentDeployment wiring environment) context body)
      (PaymentCall.handleWebhook context body).demand := by
  simp only [handleWebhook, PaymentCall.demand]
  cases PaymentWebhookPayload.parse body with
  | none => exact trivial
  | some payload =>
      change Takes wiring environment
        (IdempotencyService.getExisting paymentHost payload.paymentId none >>= _)
        (executing "notification")
      apply (getExisting_takes payload.paymentId).before
      intro existing
      change Task.Affords _ _ (ite _ _ _) _
      split
      · exact trivial
      · apply (process_takes context payload).followed
        intro _
        exact (store_takes _ _ _).before fun _ => trivial

theorem payment_body_takes (call : PortCall ⊕ PaymentCall) :
    Takes wiring environment ((paymentSystem (paymentDeployment wiring environment)).body call)
      (paymentTariff.budget call) := by
  cases call with
  | inl call => exact portBody_costs payment_adapters call
  | inr call =>
      cases call with
      | createPayment context customerId body =>
          exact (createPayment_takes context customerId body).followed fun _ => trivial
      | createBatchPayment context customerId body =>
          exact (createBatchPayment_takes context customerId body).followed fun _ => trivial
      | handleWebhook context body =>
          exact (handleWebhook_takes context body).followed fun _ => trivial

end Programs

/-- In every run, no call asks more of the outside than its own demand, and all of them
together, with everything they forked, ask no more than the calls made from outside. -/
theorem payment_traffic_bounded (wiring : Wiring) (environment : CacheEnvironment)
    (world : World payment) {schedule : List (Action (portSignature payment) PortExternal)}
    {p : Pool (portSignature payment) Resolution}
    (ran : (Pool.initial world).run (paymentSystem (paymentDeployment wiring environment))
      schedule = some p) (kind : Traffic) :
    (∀ tid call, p.snapshot.Saw tid (.started call) →
      spent paymentTariff (ownEntries tid p.snapshot.trace) kind ≤ paymentTariff.budget call kind) ∧
      spent paymentTariff p.snapshot.trace kind ≤ granted paymentTariff schedule kind := by
  constructor
  · intro tid call began
    have reached : Reachable (paymentSystem (paymentDeployment wiring environment)) world p :=
      ⟨schedule, ran⟩
    exact reached.within_budget began (payment_body_takes call) kind
  · exact spent_le_granted payment_body_takes ran kind

/-- A batch of two invoices reads both of them, which is all it may. -/
theorem payment_traffic_bounded_batch :
    ∃ p, (Pool.initial paymentWorld).run (paymentSystem queueDeployment)
        (batchCharged ["HD-1", "HD-2"]) = some p ∧
      spent paymentTariff p.snapshot.trace (.adapter "invoice") = 2 ∧
      granted paymentTariff (batchCharged ["HD-1", "HD-2"]) (.adapter "invoice") = 2 ∧
      spent paymentTariff p.snapshot.trace (.adapter "invoice") ≤
        granted paymentTariff (batchCharged ["HD-1", "HD-2"]) (.adapter "invoice") := by
  have shows : ((Pool.initial paymentWorld).run (paymentSystem queueDeployment)
      (batchCharged ["HD-1", "HD-2"])).any (fun p =>
        spent paymentTariff p.snapshot.trace (.adapter "invoice") = 2) = true := by
    decide +kernel
  obtain ⟨p, ran, seen⟩ := (Option.any_eq_true _ _).mp shows
  refine ⟨p, ran, of_decide_eq_true seen, ?_, ?_⟩
  · decide +kernel
  · exact (payment_traffic_bounded queueWiring .any paymentWorld ran _).2

end SelfService
