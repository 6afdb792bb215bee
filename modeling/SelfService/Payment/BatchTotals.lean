/-
The total of a batch payment.

The loop adds up the invoices as they are listed.  Nothing removes an invoice
that is listed twice.
-/

import Mathlib.Algebra.BigOperators.Group.Finset.Basic
import Mathlib.Algebra.Ring.Rat
import SelfService.Payment.QueuedCharges

namespace SelfService

open Data EventLoop PortRegistry PaymentService

/-! ### Invoice stores -/

/-- The invoices of the customers; what is missing is not truthy. -/
structure InvoiceStore where
  invoice : String → String → JsValue
  integral : ∀ customerId invoiceId, (invoice customerId invoiceId).truthy = true →
    ∃ amount : Int, (invoice customerId invoiceId).field "totalAmount" = .num amount

namespace InvoiceStore

variable (store : InvoiceStore) (customerId : String)

def unpaid (invoiceId : String) : Prop :=
  (store.invoice customerId invoiceId).field "paymentStatus" = .str "unpaid"

def amount (invoiceId : String) : Rat :=
  match (store.invoice customerId invoiceId).field "totalAmount" with
  | .num amount => amount
  | _ => 0

/-- Whatever the registry may answer to an invoice read is the store's invoice. -/
def AnswersReads (d : Deployment payment) (trace : PortTrace payment) : Prop :=
  ∀ tid context customerId invoiceId result,
    Outcome d tid (invoiceRead context customerId invoiceId) trace (.ok result) →
      result.data = store.invoice customerId invoiceId

/-- The task read this invoice of the store as unpaid. -/
def ReadUnpaid (d : Deployment payment) (trace : PortTrace payment) (tid : Nat)
    (context : Option RequestContext) (invoiceId : String) : Prop :=
  store.unpaid customerId invoiceId ∧ ∃ result : PortResult,
    Outcome d tid (invoiceRead context customerId invoiceId) trace (.ok result) ∧
      result.data = store.invoice customerId invoiceId

/-- What a batch of these invoices should be charged with: every invoice was read as unpaid,
is listed once and counts once. -/
def ChargesRightly (d : Deployment payment) (trace : PortTrace payment) (tid : Nat)
    (context : Option RequestContext) (invoiceIds : List String) (totalAmount : JsValue) : Prop :=
  (∀ invoiceId ∈ invoiceIds, store.ReadUnpaid customerId d trace tid context invoiceId) ∧
    invoiceIds.Nodup ∧
      totalAmount = .num (∑ invoiceId ∈ invoiceIds.toFinset, store.amount customerId invoiceId)

variable {store customerId} {d : Deployment payment} {trace : PortTrace payment}

theorem AnswersReads.earlier {early late : PortTrace payment} (answers : store.AnswersReads d late)
    (grown : early <+: late) : store.AnswersReads d early :=
  fun tid context customerId invoiceId result outcome =>
    answers tid context customerId invoiceId result (outcome.mono grown)

/-- An unpaid invoice is an object, and its amount a number. -/
theorem amount_of_unpaid {invoiceId : String} (unpaid : store.unpaid customerId invoiceId) :
    (store.invoice customerId invoiceId).field "totalAmount" =
      .num (store.amount customerId invoiceId) := by
  have truthy : (store.invoice customerId invoiceId).truthy = true := by
    unfold InvoiceStore.unpaid at unpaid
    cases same : store.invoice customerId invoiceId with
    | obj fields => rfl
    | arr items => rfl
    | date time => rfl
    | _ =>
        rw [same] at unpaid
        simp [JsValue.field] at unpaid
  obtain ⟨amount, same⟩ := store.integral customerId invoiceId truthy
  simp only [InvoiceStore.amount, same]

end InvoiceStore

/-! ### The sum -/

/-- The loop counts an invoice as often as it is listed. -/
theorem sumAmounts_listed {store : InvoiceStore} {customerId : String} (invoiceIds : List String)
    (unpaid : ∀ invoiceId ∈ invoiceIds, store.unpaid customerId invoiceId) (total : Rat) :
    sumAmounts (.num total) (invoiceIds.map (store.invoice customerId)) =
      .num (total + (invoiceIds.map (store.amount customerId)).sum) := by
  induction invoiceIds generalizing total with
  | nil => simp [sumAmounts]
  | cons invoiceId rest ih =>
      have first := InvoiceStore.amount_of_unpaid (unpaid invoiceId List.mem_cons_self)
      have others := ih (fun other member => unpaid other (List.mem_cons_of_mem _ member))
        (total + store.amount customerId invoiceId)
      rw [sumAmounts] at others ⊢
      rw [List.map_cons, List.foldl_cons, first, addAmounts, others, List.map_cons, List.sum_cons,
        add_assoc]

section Totals

variable {store : InvoiceStore} {d : Deployment payment} {tid : Nat}
  {context : Option RequestContext} {customerId : String} {trace : PortTrace payment}

theorem stored_of_verified (answers : store.AnswersReads d trace) {invoiceId : String}
    {invoice : JsValue} (verified : VerifiedAs d tid context customerId trace invoiceId invoice) :
    store.ReadUnpaid customerId d trace tid context invoiceId ∧
      invoice = store.invoice customerId invoiceId := by
  cases verified with
  | unpaid result outcome status =>
      have same := answers tid context customerId invoiceId result outcome
      refine ⟨⟨?_, result, outcome, same⟩, same⟩
      rw [InvoiceStore.unpaid, ← same]
      exact status

theorem stored_of_batch (answers : store.AnswersReads d trace) {invoiceIds : List String}
    {invoices : List JsValue}
    (verified : List.Forall₂ (VerifiedAs d tid context customerId trace) invoiceIds invoices) :
    (∀ invoiceId ∈ invoiceIds, store.ReadUnpaid customerId d trace tid context invoiceId) ∧
      invoices = invoiceIds.map (store.invoice customerId) := by
  induction verified with
  | nil => exact ⟨fun _ member => absurd member List.not_mem_nil, rfl⟩
  | cons first _ ih =>
      have ⟨read, same⟩ := stored_of_verified answers first
      constructor
      · intro invoiceId member
        rcases List.mem_cons.mp member with here | later
        · rw [here]
          exact read
        · exact ih.1 invoiceId later
      · rw [same, ih.2, List.map_cons]

/-- A batch over verified invoices is charged what its list adds up to, which is right exactly
if no invoice is listed twice. -/
theorem chargesRightly_iff (answers : store.AnswersReads d trace) {invoiceIds : List String}
    {totalAmount : JsValue}
    (outcome : BatchOutcome d tid context customerId invoiceIds (.num 0) trace (.ok totalAmount)) :
    store.ChargesRightly customerId d trace tid context invoiceIds totalAmount ↔
      invoiceIds.Nodup := by
  obtain ⟨invoices, verified, rfl⟩ := outcome
  have ⟨read, same⟩ := stored_of_batch answers verified
  constructor
  · intro right
    exact right.2.1
  · intro distinct
    refine ⟨read, distinct, ?_⟩
    rw [same, sumAmounts_listed invoiceIds fun invoiceId member => (read invoiceId member).1,
      zero_add, List.sum_toFinset _ distinct]

end Totals

/-! ### Runs -/

/-- A batch charge is right exactly if its call lists no invoice twice. -/
def BatchLaw (store : InvoiceStore) (d : Deployment payment) (before : PortTrace payment)
    (entry : PortTraceEntry payment) : Prop :=
  ∀ charge, entry.event = .marked (.inr (.charges charge)) →
    charge.method = "create-batch-payment" →
      ∃ context customerId body request totalAmount,
        Saw before entry.tid (.started (.inr (.createBatchPayment context customerId body))) ∧
        CreateBatchPaymentRequest.parse body = some request ∧
        charge = batchCharge context customerId request totalAmount ∧
        (store.ChargesRightly customerId d before entry.tid context request.invoiceIds
          totalAmount ↔ request.invoiceIds.Nodup)

abbrev BatchesRight (store : InvoiceStore) (d : Deployment payment) :
    PortTrace payment → Prop :=
  Guarded (store.AnswersReads d) (BatchLaw store d)

section Runs

variable {store : InvoiceStore} {wiring : Wiring} {environment : CacheEnvironment}
  {s : PortSnapshot payment} {tid : Nat}

/-- Only a batch charge is affected by the law. -/
theorem BatchesRight.keep {d : Deployment payment} {trace : PortTrace payment}
    {entry : PortTraceEntry payment} (hold : BatchesRight store d trace)
    (other : ∀ charge, entry.event = .marked (.inr (.charges charge)) →
      charge.method ≠ "create-batch-payment") :
    BatchesRight store d (trace ++ [entry]) :=
  hold.snoc (fun _ _ grown answers => answers.earlier grown)
    fun _ charge event batch => absurd batch (other charge event)

theorem batchesRight_stable (store : InvoiceStore) (wiring : Wiring)
    (environment : CacheEnvironment) :
    Stable (paymentDeployment wiring environment)
      (paymentService (paymentDeployment wiring environment)) noPromise
      (fun s => BatchesRight store (paymentDeployment wiring environment) s.trace) := by
  apply stable_of_trace rfl
  · intro trace entry registry hold
    apply hold.keep
    intro charge event
    rw [event] at registry
    cases registry
  · intro trace entry call event hold
    apply hold.keep
    intro charge same
    rw [event] at same
    cases same
  · intro trace entry call result event hold
    apply hold.keep
    intro charge same
    rw [event] at same
    cases same

theorem createBatchPayment_totals {context : Option RequestContext} {customerId : String}
    {body : JsValue}
    (started : s.Saw tid (.started (.inr (.createBatchPayment context customerId body))))
    (hold : BatchesRight store (paymentDeployment wiring environment) s.trace) :
    Safe (paymentSystem (paymentDeployment wiring environment))
      (fun s => BatchesRight store (paymentDeployment wiring environment) s.trace) tid
      (fun _ later => BatchesRight store (paymentDeployment wiring environment) later.trace)
      (createBatchPayment (paymentDeployment wiring environment) context customerId body) s := by
  have stable := batchesRight_stable store wiring environment
  apply createBatchPayment_safe (stable.closed tid) (stable.adapters tid) _ hold
  intro request totalAmount later parsed extends_ holdLater outcome
  apply holdLater.snoc fun _ _ grown answers => answers.earlier grown
  intro answers charge event _
  cases event
  have answersNow := answers.earlier (List.prefix_append later.trace _)
  exact ⟨context, customerId, body, request, totalAmount, started.mono extends_, parsed, rfl,
    chargesRightly_iff answersNow outcome⟩

end Runs

/-- No copy was served, and what an adapter returned is the store's. -/
def answersFrom (store : InvoiceStore) (entry : PortTraceEntry payment) : Bool :=
  (servedCopy entry).isNone &&
    match entry.event with
    | .marked (.inl (.settled _ i (.ok invoice))) =>
        match i.portName, i.params.field "customerId", i.params.field "invoiceId" with
        | "invoice", .str customerId, .str invoiceId =>
            invoice = store.invoice customerId invoiceId
        | _, _, _ => true
    | _ => true

theorem answersReads_of_all {store : InvoiceStore} {d : Deployment payment}
    {trace : PortTrace payment} (direct : trace.all (answersFrom store) = true) :
    store.AnswersReads d trace := by
  intro tid context customerId invoiceId result outcome
  have checked {event : PortEvent payment} (seen : Saw trace tid event) :
      ∃ time, answersFrom store ⟨tid, time, event⟩ = true := by
    obtain ⟨time, member⟩ := seen
    exact ⟨time, List.all_eq_true.mp direct _ member⟩
  cases outcome with
  | recorded rawKey result keyed => cases keyed
  | cached entry result readOnly seen present =>
      obtain ⟨time, uncopied⟩ := checked seen
      simp [answersFrom, servedCopy, present] at uncopied
  | fresh adapter result seen =>
      obtain ⟨time, stored⟩ := checked seen
      simpa [answersFrom, servedCopy, invoiceRead, List.lookup_cons] using stored
  | degraded result seen =>
      obtain ⟨time, uncopied⟩ := checked seen
      simp [answersFrom, servedCopy, invoiceRead] at uncopied

/-- One customer with two unpaid invoices. -/
def twoInvoices (customerId invoiceId : String) : JsValue :=
  if customerId = "KH-1" ∧ (invoiceId = "HD-1" ∨ invoiceId = "HD-2") then
    .obj [("invoiceId", .str invoiceId), ("totalAmount", .num 105000),
      ("paymentStatus", .str "unpaid")]
  else .undefined

def twoInvoiceStore : InvoiceStore where
  invoice := twoInvoices
  integral customerId invoiceId present := by
    unfold twoInvoices at present ⊢
    split at present
    · exact ⟨105000, by simp [*, List.lookup_cons]⟩
    · cases present

def batchBody (invoiceIds : List String) : JsValue :=
  .obj [("invoiceIds", .arr (invoiceIds.map .str)), ("method", .str "qr_code")]

/-- A read that misses the cache, and whose answer the cache does not take. -/
def readThrough (invoiceId : String) : List PaymentAction :=
  let read := invoiceRead none "KH-1" invoiceId
  let key := buildCacheKey queueDeployment read.portName read.method read.params
  let entry := .obj [("data", twoInvoices "KH-1" invoiceId),
    ("cachedAt", .str "2023-11-14T22:13:20.000Z")]
  [.answer 0 (.inl (.cache (.get key))) (Reply.ok .null), .resume 0,
    .answer 0 (.inl (.adapter ⟨"invoice", .mock⟩ none "get-by-id" read.params))
      (Except.ok (twoInvoices "KH-1" invoiceId)),
    .resume 0,
    .answer 0 (.inl (.cache (.set key entry (some 900)))) (Reply.failed false "ECONNRESET"),
    .resume 0]

def batchCharged (invoiceIds : List String) : List PaymentAction :=
  [.call (.inr (.createBatchPayment none "KH-1" (batchBody invoiceIds))), .resume 0] ++
    invoiceIds.flatMap readThrough

def listedTwice : CreateBatchPaymentRequest where
  invoiceIds := ["HD-1", "HD-1"]
  method := .qrCode
  valid := by decide +kernel
  bounded := by decide

def chargesTwice (entry : PortTraceEntry payment) : Bool :=
  match entry.event with
  | .marked (.inr (.charges charge)) => charge = batchCharge none "KH-1" listedTwice (.num 210000)
  | _ => false

theorem charge_of_any {trace : PortTrace payment} (charged : trace.any chargesTwice = true) :
    ∃ before entry after, trace = before ++ entry :: after ∧
      entry.event = .marked (.inr (.charges
        (batchCharge none "KH-1" listedTwice (.num 210000)))) := by
  obtain ⟨entry, member, twice⟩ := List.any_eq_true.mp charged
  obtain ⟨before, after, split⟩ := List.append_of_mem member
  refine ⟨before, entry, after, split, ?_⟩
  unfold chargesTwice at twice
  split at twice
  · rename_i charge event
    rw [event, of_decide_eq_true twice]
  · cases twice

end SelfService
