/-
Where the amount of a single charge comes from.

The invoice of a charge is read with `useCache: false`, which is a parameter of
the read like any other: the registry may answer from its read cache or from
the fallback slot of the port, and the charge does not tell these answers apart.
-/

import SelfService.EventLoop.History
import SelfService.Payment.Charges
import SelfService.Payment.WebhookSafety

namespace SelfService

open Data EventLoop PortRegistry PaymentService

variable {wiring : Wiring} {environment : CacheEnvironment}

/-! ### Observations -/

def startsCreatePayment (tid : Nat) (entry : PortTraceEntry payment) : Bool :=
  match entry.event with
  | .started (.inr (.createPayment _ _ _)) => entry.tid = tid
  | _ => false

/-- The invoice detail that a call was served from the read cache or from the slot. -/
def servedCopy (entry : PortTraceEntry payment) : Option JsValue :=
  match entry.event with
  | .answered (.inl (.cache (.get _))) (Reply.ok value) =>
      if value.isNullish then none else some (value.field "data")
  | .marked (.inl (.fellBack i data)) => if i.portName = "invoice" then some data else none
  | _ => none

/-- No copy that was served to a single charge says that its invoice is unpaid. -/
def copiesAreSettled (trace : PortTrace payment) : Bool :=
  trace.all fun entry =>
    !trace.any (startsCreatePayment entry.tid) ||
      (servedCopy entry).all fun copy => copy.field "paymentStatus" ≠ .str "unpaid"

/-- The call asks for this charge. -/
def asksFor (charge : Invocation) (tid : Nat) (entry : PortTraceEntry payment) : Bool :=
  match entry.event with
  | .started (.inr (.createPayment _ customerId body)) =>
      entry.tid = tid && charge.params.field "customerId" = .str customerId &&
        charge.params.field "invoiceId" = body.field "invoiceId"
  | _ => false

/-- An adapter call of this task returned the unpaid invoice that is being charged. -/
def returnedInvoice (charge : Invocation) (tid : Nat) (entry : PortTraceEntry payment) : Bool :=
  match entry.event with
  | .marked (.inl (.settled _ i (.ok invoice))) =>
      entry.tid = tid && i.portName = "invoice" && i.method = "get-by-id" &&
        i.params.field "invoiceId" = charge.params.field "invoiceId" &&
        i.params.field "customerId" = charge.params.field "customerId" &&
        invoice.field "paymentStatus" = .str "unpaid" &&
        invoice.field "totalAmount" = charge.params.field "amount"
  | _ => false

/-- A single charge passes the amount of an unpaid invoice its own call fetched. -/
def amountIsFresh (before : PortTrace payment) (entry : PortTraceEntry payment) : Bool :=
  match entry.event with
  | .marked (.inr (.charges charge)) =>
      charge.method ≠ "create-payment" ||
        before.any (asksFor charge entry.tid) && before.any (returnedInvoice charge entry.tid)
  | _ => true

abbrev AmountsFresh : PortTrace payment → Prop :=
  Guarded (fun trace => copiesAreSettled trace = true)
    fun before entry => amountIsFresh before entry = true

theorem copiesAreSettled_earlier (early late : PortTrace payment) (grown : early <+: late)
    (settled : copiesAreSettled late = true) : copiesAreSettled early = true := by
  unfold copiesAreSettled at settled ⊢
  rw [List.all_eq_true] at settled ⊢
  intro entry member
  have checked := settled entry (grown.subset member)
  cases starts : early.any (startsCreatePayment entry.tid) with
  | false => simp
  | true =>
      rw [any_of_grown grown starts] at checked
      simpa using checked

/-- Every event but a charge leaves the law as it is. -/
theorem AmountsFresh.snoc {trace : PortTrace payment} {entry : PortTraceEntry payment}
    (hold : AmountsFresh trace)
    (law : copiesAreSettled (trace ++ [entry]) = true → amountIsFresh trace entry = true) :
    AmountsFresh (trace ++ [entry]) :=
  Guarded.snoc copiesAreSettled_earlier hold law

theorem amountsFresh_stable (wiring : Wiring) (environment : CacheEnvironment) :
    Stable (paymentDeployment wiring environment)
      (paymentService (paymentDeployment wiring environment)) noPromise
      (fun s => AmountsFresh s.trace) := by
  apply stable_of_trace rfl
  · intro trace entry registry hold
    apply hold.snoc
    intro _
    unfold amountIsFresh
    split
    · rename_i event
      rw [event] at registry
      cases registry
    · rfl
  · intro trace entry call event hold
    apply hold.snoc
    intro _
    simp [amountIsFresh, event]
  · intro trace entry call result event hold
    apply hold.snoc
    intro _
    simp [amountIsFresh, event]

/-- An unpaid invoice that was no copy was returned to this very call. -/
theorem returned_of_outcome {tid : Nat} {read : Invocation} {trace : PortTrace payment}
    {result : PortResult} (keyless : read.idempotencyKey = none) (port : read.portName = "invoice")
    (outcome : Outcome (paymentDeployment wiring environment) tid read trace (.ok result))
    (status : result.data.field "paymentStatus" = .str "unpaid")
    (starts : trace.any (startsCreatePayment tid) = true)
    (settled : copiesAreSettled trace = true) :
    ∃ adapter, Saw trace tid (.marked (.inl (.settled adapter read (.ok result.data)))) := by
  have noCopy {event : PortEvent payment} (seen : Saw trace tid event)
      (served : ∀ time, servedCopy ⟨tid, time, event⟩ = some result.data) : False := by
    obtain ⟨time, member⟩ := seen
    have checked := List.all_eq_true.mp settled _ member
    simp [starts, served time, status] at checked
  cases outcome with
  | recorded rawKey result keyed seen present healthy =>
      rw [keyless] at keyed
      cases keyed
  | cached entry result readOnly seen present same healthy =>
      exact absurd seen fun seen => noCopy seen fun time => by simp [servedCopy, present, same]
  | fresh adapter result seen healthy => exact ⟨adapter, seen⟩
  | degraded result seen ill =>
      exact absurd seen fun seen => noCopy seen fun time => by simp [servedCopy, port]

section AmountBodies

variable {s : PortSnapshot payment} {tid : Nat} {context : Option RequestContext}
  {customerId : String} {body : JsValue}

theorem asksFor_charge (tid time : Nat) {request : CreatePaymentRequest}
    (parsed : CreatePaymentRequest.parse body = some request) (amount : JsValue) :
    asksFor (charge context customerId request amount) tid
      ⟨tid, time, .started (.inr (.createPayment context customerId body))⟩ = true := by
  have invoiceId := (CreatePaymentRequest.fields_of_parse parsed).1
  simp [asksFor, charge, List.lookup_cons, invoiceId]

theorem returnedInvoice_read (tid time : Nat) (adapter : AdapterKind)
    (request : CreatePaymentRequest) {invoice : JsValue}
    (status : invoice.field "paymentStatus" = .str "unpaid") :
    returnedInvoice (charge context customerId request (invoice.field "totalAmount")) tid
      ⟨tid, time, .marked (.inl (.settled adapter
        (invoiceRead context customerId request.invoiceId) (.ok invoice)))⟩ = true := by
  simp [returnedInvoice, charge, invoiceRead, List.lookup_cons, status]

/-- The charge of a single payment has its evidence when it is made. -/
theorem createPayment_amounts (started : s.Saw tid
      (.started (.inr (.createPayment context customerId body))))
    (hold : AmountsFresh s.trace) :
    Safe (paymentSystem (paymentDeployment wiring environment)) (fun s => AmountsFresh s.trace) tid
      (fun _ later => AmountsFresh later.trace)
      (createPayment (paymentDeployment wiring environment) context customerId body) s := by
  have stable := amountsFresh_stable wiring environment
  apply createPayment_safe (stable.closed tid) (stable.adapters tid) _ hold
  intro request result later parsed extends_ holdLater outcome status
  apply holdLater.snoc
  intro settled
  have settledNow := copiesAreSettled_earlier _ _ (List.prefix_append _ _) settled
  have startedNow := started.mono extends_
  have starts : later.trace.any (startsCreatePayment tid) = true :=
    any_of_saw startedNow fun _ => by simp [startsCreatePayment]
  obtain ⟨adapter, seen⟩ := returned_of_outcome rfl rfl outcome status starts settledNow
  have asks := any_of_saw startedNow fun time =>
    asksFor_charge tid time parsed (result.data.field "totalAmount")
  have returned := any_of_saw seen fun time =>
    returnedInvoice_read tid time adapter request status
  simp [amountIsFresh, asks, returned]

/-- The law says nothing about batches. -/
theorem createBatchPayment_amounts (hold : AmountsFresh s.trace) :
    Safe (paymentSystem (paymentDeployment wiring environment)) (fun s => AmountsFresh s.trace) tid
      (fun _ later => AmountsFresh later.trace)
      (createBatchPayment (paymentDeployment wiring environment) context customerId body) s := by
  have stable := amountsFresh_stable wiring environment
  apply createBatchPayment_safe (stable.closed tid) (stable.adapters tid) _ hold
  intro request totalAmount later _ _ holdLater _
  exact holdLater.snoc fun _ => rfl

theorem handleWebhook_amounts (hold : AmountsFresh s.trace) :
    Safe (paymentSystem (paymentDeployment wiring environment)) (fun s => AmountsFresh s.trace) tid
      (fun _ later => AmountsFresh later.trace)
      (handleWebhook (paymentDeployment wiring environment) context body) s := by
  apply (handleWebhook_trace (Q := AmountsFresh) rfl _ hold).mono
  · exact fun _ _ _ ended => ended.1
  · intro trace entry plain holdTrace
    apply holdTrace.snoc
    intro _
    unfold amountIsFresh
    split
    · rename_i charge event
      rw [event] at plain
      rcases plain with registry | ⟨payload, effect, other⟩
      · cases registry
      · cases other
    · rfl

end AmountBodies

/-- In every run in which no single charge is served a copy that says unpaid, every
single charge passes the amount of an invoice its own call fetched as unpaid. -/
theorem amount_is_fresh (wiring : Wiring) (environment : CacheEnvironment)
    (world : World payment) (p : Pool (portSignature payment) Resolution)
    (reached : Reachable (paymentSystem (paymentDeployment wiring environment)) world p)
    (settled : copiesAreSettled p.snapshot.trace = true) :
    Passes amountIsFresh p.snapshot.trace := by
  have verified : Verified (paymentSystem (paymentDeployment wiring environment))
      (fun s => AmountsFresh s.trace) := by
    apply (amountsFresh_stable wiring environment).verified
    intro s tid call hold begins
    have finish {result : Except Exn Resolution} {later : PortSnapshot payment}
        (holdLater : AmountsFresh later.trace) :
        AmountsFresh (later.log (paymentSystem (paymentDeployment wiring environment)) tid
          (.finished (.inr call) result)).trace :=
      holdLater.snoc fun _ => rfl
    cases call with
    | createPayment context customerId body =>
        apply (safe_map _ _ _ s).mpr
        exact (createPayment_amounts begins.seen hold).mono fun _ _ _ => finish
    | createBatchPayment context customerId body =>
        apply (safe_map _ _ _ s).mpr
        exact (createBatchPayment_amounts hold).mono fun _ _ _ => finish
    | handleWebhook context body =>
        apply (safe_map _ _ _ s).mpr
        exact (handleWebhook_amounts hold).mono fun _ _ _ => finish
  exact verified.reachable (guarded_nil _ _) reached settled

/-! ### A charge on a copy -/

/-- SHA-256 of the JSON text of the only read below. -/
def chargeWiring : Wiring :=
  .configured false (fun _ => ⟨"e3b0c44298fc1c14", isHex_empty⟩)
    fun _ => ⟨"d29ad42d4a509ebb", isHex_params⟩

abbrev chargeDeployment : Deployment payment := paymentDeployment chargeWiring .any

def paymentWorld : World payment :=
  registerAll ["invoice", "payment"] (bareWorld 1700000000000 .empty apiEndpoints .empty)

def chargeBody : JsValue := .obj [("invoiceId", .str "HD-1"), ("method", .str "qr_code")]

def chargeRead : Invocation := invoiceRead none "KH-1" "HD-1"

def chargeReadKey : String :=
  buildCacheKey chargeDeployment chargeRead.portName chargeRead.method chargeRead.params

def unpaidInvoice : JsValue :=
  .obj [("invoiceId", .str "HD-1"), ("totalAmount", .num 105000), ("paymentStatus", .str "unpaid")]

def unpaidEntry : JsValue :=
  .obj [("data", unpaidInvoice), ("cachedAt", .str "2023-11-14T22:13:20.000Z")]

abbrev PaymentAction := Action (portSignature payment) PortExternal

/-- A charge that reads its invoice from the adapter. -/
def firstCharge : List PaymentAction :=
  [.call (.inr (.createPayment none "KH-1" chargeBody)), .resume 0,
    .answer 0 (.inl (.cache (.get chargeReadKey))) (Reply.ok .null), .resume 0,
    .answer 0 (.inl (.adapter ⟨"invoice", .mock⟩ none "get-by-id" chargeRead.params))
      (Except.ok unpaidInvoice),
    .resume 0,
    .answer 0 (.inl (.cache (.set chargeReadKey unpaidEntry (some 900)))) (Reply.ok ()), .resume 0]

/-- The same charge once more, within a quarter of an hour. -/
def secondCharge : List PaymentAction :=
  [.call (.inr (.createPayment none "KH-1" chargeBody)), .resume 1,
    .answer 1 (.inl (.cache (.get chargeReadKey))) (Reply.ok unpaidEntry), .resume 1]

def isCharge (entry : PortTraceEntry payment) : Bool :=
  match entry.event with
  | .marked (.inr (.charges _)) => true
  | _ => false

/-- The second charge passes the amount of a cached copy. -/
theorem amount_of_copy :
    ∃ p, Reachable (paymentSystem chargeDeployment) paymentWorld p ∧
      ¬ Passes amountIsFresh p.snapshot.trace :=
  ⟨_, reachable_run (paymentSystem chargeDeployment) paymentWorld (firstCharge ++ secondCharge)
    (by decide +kernel), by decide +kernel⟩

theorem amount_is_fresh_first :
    ∃ p, Reachable (paymentSystem chargeDeployment) paymentWorld p ∧
      p.snapshot.trace.any isCharge = true ∧ Passes amountIsFresh p.snapshot.trace :=
  ⟨_, reachable_run (paymentSystem chargeDeployment) paymentWorld firstCharge (by decide +kernel),
    by decide +kernel,
    amount_is_fresh chargeWiring .any paymentWorld _
      (reachable_run (paymentSystem chargeDeployment) paymentWorld firstCharge (by decide +kernel))
      (by decide +kernel)⟩

end SelfService
