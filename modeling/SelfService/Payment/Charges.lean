/-
What the two charges do.

Both read their invoices through the registry like everyone else, and charge
when every invoice says that it is unpaid.  `VerifyOutcome` keeps how the
registry came to its answer.
-/

import SelfService.Payment.PaymentService
import SelfService.Port.RegistrySafety

namespace SelfService

open Data EventLoop PortRegistry PaymentService

/-! ### Requests -/

theorem PaymentMethod.text_of_parse {text : String} {method : PaymentMethod}
    (parsed : PaymentMethod.parse text = some method) : method.text = text := by
  simpa using List.find?_some parsed

theorem CreatePaymentRequest.fields_of_parse {body : JsValue} {request : CreatePaymentRequest}
    (parsed : CreatePaymentRequest.parse body = some request) :
    body.field "invoiceId" = .str request.invoiceId ∧
      body.field "method" = .str request.method.text := by
  unfold CreatePaymentRequest.parse at parsed
  split at parsed
  · rename_i invoiceId method invoiceField methodField
    obtain ⟨known, found, accepted⟩ := Option.bind_eq_some_iff.mp parsed
    split at accepted
    · cases accepted
      exact ⟨invoiceField, by rw [methodField, PaymentMethod.text_of_parse found]⟩
    · cases accepted
  · cases parsed

theorem items_of_mapM {items : List JsValue} {texts : List String}
    (mapped : items.mapM textOf = some texts) : items = texts.map .str := by
  induction items generalizing texts with
  | nil =>
      cases mapped
      rfl
  | cons item rest ih =>
      rw [List.mapM_cons] at mapped
      obtain ⟨text, first, others⟩ := Option.bind_eq_some_iff.mp mapped
      obtain ⟨tail, second, same⟩ := Option.bind_eq_some_iff.mp others
      cases same
      have head : item = .str text := by
        cases item with
        | str value => cases first; rfl
        | _ => cases first
      rw [List.map_cons, ← ih second, head]

theorem CreateBatchPaymentRequest.fields_of_parse {body : JsValue}
    {request : CreateBatchPaymentRequest}
    (parsed : CreateBatchPaymentRequest.parse body = some request) :
    body.field "invoiceIds" = .arr (request.invoiceIds.map .str) ∧
      body.field "method" = .str request.method.text := by
  unfold CreateBatchPaymentRequest.parse at parsed
  split at parsed
  · rename_i items method itemsField methodField
    obtain ⟨known, found, rest⟩ := Option.bind_eq_some_iff.mp parsed
    obtain ⟨invoiceIds, texts, accepted⟩ := Option.bind_eq_some_iff.mp rest
    split at accepted
    · cases accepted
      exact ⟨by rw [itemsField, items_of_mapM texts],
        by rw [methodField, PaymentMethod.text_of_parse found]⟩
    · cases accepted
  · cases parsed

/-! ### Verification of an invoice -/

section Verification

variable {d : Deployment payment} {Inv : PortSnapshot payment → Prop} {tid : Nat}
  {context : Option RequestContext} {customerId : String} {s : PortSnapshot payment}

/-- What the verification of one invoice ends with: an unpaid invoice that the registry
returned, a rejection by the registry, or a refusal. -/
inductive VerifyOutcome (d : Deployment payment) (tid : Nat) (read : Invocation)
    (trace : PortTrace payment) : Except Exn JsValue → Prop
  | unpaid (result : PortResult) (outcome : Outcome d tid read trace (.ok result))
      (status : result.data.field "paymentStatus" = .str "unpaid") :
      VerifyOutcome d tid read trace (.ok result.data)
  | rejected (error : Exn) (outcome : Outcome d tid read trace (.error error)) :
      VerifyOutcome d tid read trace (.error error)
  | refused (kind : BaseKind) (message code : String) (details : JsValue) :
      VerifyOutcome d tid read trace (.error (.base kind message code details))

theorem verifyInvoice_safe (invoiceId : String)
    (closed : ∀ i, Closed d (paymentService d) noPromise Inv tid i)
    (adapters : ∀ i, AdaptersKeep d (paymentService d) noPromise Inv tid i) (hold : Inv s) :
    Safe (paymentSystem d) Inv tid
      (fun result later => Inv later ∧
        VerifyOutcome d tid (invoiceRead context customerId invoiceId) later.trace result)
      (verifyInvoice d context customerId invoiceId) s := by
  unfold verifyInvoice
  rw [safe_bind]
  apply ((closed _).execute (adapters _) hold).mono
  rintro result later - ⟨holdLater, outcome⟩
  cases result with
  | error error => exact ⟨holdLater, .rejected error outcome⟩
  | ok result =>
      simp only
      split
      · split
        · rename_i status
          exact ⟨holdLater, .unpaid result outcome status⟩
        · exact ⟨holdLater, .refused _ _ _ _⟩
      · exact ⟨holdLater, .refused _ _ _ _⟩

theorem VerifyOutcome.saw_queued {d : Deployment payment} {tid : Nat} {read : Invocation}
    {trace : PortTrace payment} {portName jobId : String}
    (outcome : VerifyOutcome d tid read trace (.error (.portQueued portName jobId))) :
    ∃ reply, Saw trace tid (.answered (.inl (.queueAdd (replayPayload read))) (Reply.ok reply)) := by
  cases outcome with
  | rejected error outcome => exact outcome.saw_queued

theorem VerifyOutcome.mono {d : Deployment payment} {tid : Nat} {read : Invocation}
    {early late : PortTrace payment} {result : Except Exn JsValue}
    (outcome : VerifyOutcome d tid read early result) (grown : early <+: late) :
    VerifyOutcome d tid read late result := by
  cases outcome with
  | unpaid result outcome status => exact .unpaid result (outcome.mono grown) status
  | rejected error outcome => exact .rejected error (outcome.mono grown)
  | refused kind message code details => exact .refused kind message code details

/-- The invoice was read and found unpaid. -/
def VerifiedAs (d : Deployment payment) (tid : Nat) (context : Option RequestContext)
    (customerId : String) (trace : PortTrace payment) (invoiceId : String)
    (invoice : JsValue) : Prop :=
  VerifyOutcome d tid (invoiceRead context customerId invoiceId) trace (.ok invoice)

/-- The sum that the loop over the invoices ends with. -/
def sumAmounts (totalAmount : JsValue) (invoices : List JsValue) : JsValue :=
  invoices.foldl (fun total invoice => addAmounts total (invoice.field "totalAmount")) totalAmount

/-- What the verification of a batch ends with: a total over invoices that were all read as
unpaid, or a rejection; a batch that is rejected as queued had one of its reads queued. -/
def BatchOutcome (d : Deployment payment) (tid : Nat) (context : Option RequestContext)
    (customerId : String) (invoiceIds : List String) (totalAmount : JsValue)
    (trace : PortTrace payment) : Except Exn JsValue → Prop
  | .ok total => ∃ invoices,
      List.Forall₂ (VerifiedAs d tid context customerId trace) invoiceIds invoices ∧
        total = sumAmounts totalAmount invoices
  | .error error => ∀ portName jobId, error = .portQueued portName jobId → ∃ invoiceId reply,
      Saw trace tid (.answered (.inl (.queueAdd
        (replayPayload (invoiceRead context customerId invoiceId)))) (Reply.ok reply))

theorem verifyInvoices_safe (invoiceIds : List String) (totalAmount : JsValue)
    (closed : ∀ i, Closed d (paymentService d) noPromise Inv tid i)
    (adapters : ∀ i, AdaptersKeep d (paymentService d) noPromise Inv tid i) (hold : Inv s) :
    Safe (paymentSystem d) Inv tid
      (fun result later => Inv later ∧
        BatchOutcome d tid context customerId invoiceIds totalAmount later.trace result)
      (verifyInvoices d context customerId invoiceIds totalAmount) s := by
  induction invoiceIds generalizing totalAmount s with
  | nil => exact ⟨hold, [], .nil, rfl⟩
  | cons invoiceId rest ih =>
      unfold verifyInvoices
      rw [safe_bind]
      apply (verifyInvoice_safe invoiceId closed adapters hold).mono
      rintro result later - ⟨holdLater, outcome⟩
      cases result with
      | ok invoice =>
          apply (ih _ holdLater).mono
          rintro result final grown ⟨holdFinal, others⟩
          refine ⟨holdFinal, ?_⟩
          cases result with
          | ok total =>
              obtain ⟨invoices, read, same⟩ := others
              exact ⟨invoice :: invoices, .cons (outcome.mono grown) read, same⟩
          | error error => exact others
      | error error =>
          refine ⟨holdLater, ?_⟩
          rintro portName jobId rfl
          obtain ⟨reply, seen⟩ := outcome.saw_queued
          exact ⟨invoiceId, reply, seen⟩

/-- A single charge keeps what its mark keeps, with the evidence it charges on. -/
theorem createPayment_safe {body : JsValue}
    (closed : ∀ i, Closed d (paymentService d) noPromise Inv tid i)
    (adapters : ∀ i, AdaptersKeep d (paymentService d) noPromise Inv tid i)
    (charged : ∀ request result later, CreatePaymentRequest.parse body = some request →
      s.Extends later → Inv later →
      Outcome d tid (invoiceRead context customerId request.invoiceId) later.trace (.ok result) →
      result.data.field "paymentStatus" = .str "unpaid" →
      Inv (later.log (paymentSystem d) tid (.marked (.inr (.charges
        (charge context customerId request (result.data.field "totalAmount")))))))
    (hold : Inv s) :
    Safe (paymentSystem d) Inv tid (fun _ later => Inv later)
      (createPayment d context customerId body) s := by
  unfold createPayment
  cases parsed : CreatePaymentRequest.parse body with
  | none => exact hold
  | some request =>
      simp only
      rw [safe_bind]
      apply (verifyInvoice_safe request.invoiceId closed adapters hold).mono
      rintro result later extends_ ⟨holdLater, outcome⟩
      cases outcome with
      | rejected error outcome => exact holdLater
      | refused kind message code details => exact holdLater
      | unpaid result outcome status =>
          simp only
          rw [safe_note, safe_bind]
          apply ((closed _).execute (adapters _)
            (charged request result later parsed extends_ holdLater outcome status)).mono
          rintro paid final - ⟨holdFinal, _⟩
          cases paid with
          | error error => exact holdFinal
          | ok paid =>
              simp only
              split
              · exact holdFinal
              · exact holdFinal

/-- A batch charge keeps what its mark keeps, with the invoices it charges. -/
theorem createBatchPayment_safe {body : JsValue}
    (closed : ∀ i, Closed d (paymentService d) noPromise Inv tid i)
    (adapters : ∀ i, AdaptersKeep d (paymentService d) noPromise Inv tid i)
    (charged : ∀ request totalAmount later, CreateBatchPaymentRequest.parse body = some request →
      s.Extends later → Inv later →
      BatchOutcome d tid context customerId request.invoiceIds (.num 0) later.trace
        (.ok totalAmount) →
      Inv (later.log (paymentSystem d) tid (.marked (.inr (.charges
        (batchCharge context customerId request totalAmount))))))
    (hold : Inv s) :
    Safe (paymentSystem d) Inv tid (fun _ later => Inv later)
      (createBatchPayment d context customerId body) s := by
  unfold createBatchPayment
  cases parsed : CreateBatchPaymentRequest.parse body with
  | none => exact hold
  | some request =>
      simp only
      rw [safe_bind]
      apply (verifyInvoices_safe request.invoiceIds _ closed adapters hold).mono
      rintro result later extends_ ⟨holdLater, outcome⟩
      cases result with
      | error error => exact holdLater
      | ok totalAmount =>
          simp only
          rw [safe_note, safe_bind]
          apply ((closed _).execute (adapters _)
            (charged request totalAmount later parsed extends_ holdLater outcome)).mono
          rintro paid final - ⟨holdFinal, _⟩
          cases paid with
          | error error => exact holdFinal
          | ok paid =>
              simp only
              split
              · exact holdFinal
              · exact holdFinal

end Verification

end SelfService

