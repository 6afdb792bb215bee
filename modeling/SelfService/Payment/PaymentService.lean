/-
Payments and payment webhooks.

A payment is charged after its invoices were read and found unpaid; both steps
go through the port registry.  A webhook delivery is looked up, processed and
recorded, in this order and with an await between any two steps.
-/

import SelfService.Idempotency.IdempotencyService

namespace SelfService

open Data EventLoop

/-! ### Inputs -/

inductive PaymentMethod : Type
  | qrCode
  | paymentLink
  | bankTransfer
  deriving DecidableEq, Repr

def PaymentMethod.text : PaymentMethod → String
  | .qrCode => "qr_code"
  | .paymentLink => "payment_link"
  | .bankTransfer => "bank_transfer"

def PaymentMethod.parse (text : String) : Option PaymentMethod :=
  [qrCode, paymentLink, bankTransfer].find? fun method => method.text = text

def validInvoiceId (text : String) : Bool :=
  1 ≤ text.length && text.length ≤ 100 &&
    text.toList.all fun symbol => symbol.isAlphanum || symbol = '-' || symbol = '_'

/-- What `CreatePaymentRequestSchema` lets through. -/
structure CreatePaymentRequest where
  invoiceId : String
  method : PaymentMethod
  valid : validInvoiceId invoiceId = true

def CreatePaymentRequest.parse (body : JsValue) : Option CreatePaymentRequest :=
  match body.field "invoiceId", body.field "method" with
  | .str invoiceId, .str method =>
      (PaymentMethod.parse method).bind fun method =>
        if valid : validInvoiceId invoiceId = true then some ⟨invoiceId, method, valid⟩ else none
  | _, _ => none

/-- What `CreateBatchPaymentRequestSchema` lets through. -/
structure CreateBatchPaymentRequest where
  invoiceIds : List String
  method : PaymentMethod
  valid : invoiceIds.all validInvoiceId = true
  bounded : 1 ≤ invoiceIds.length ∧ invoiceIds.length ≤ 20

def textOf : JsValue → Option String
  | .str text => some text
  | _ => none

def CreateBatchPaymentRequest.parse (body : JsValue) : Option CreateBatchPaymentRequest :=
  match body.field "invoiceIds", body.field "method" with
  | .arr items, .str method =>
      (PaymentMethod.parse method).bind fun method =>
        (items.mapM textOf).bind fun invoiceIds =>
          if valid : invoiceIds.all validInvoiceId = true ∧
              1 ≤ invoiceIds.length ∧ invoiceIds.length ≤ 20 then
            some ⟨invoiceIds, method, valid.1, valid.2⟩
          else none
  | _, _ => none

inductive WebhookStatus : Type
  | success
  | failed
  deriving DecidableEq, Repr

def WebhookStatus.text : WebhookStatus → String
  | .success => "success"
  | .failed => "failed"

/-- What `PaymentWebhookPayloadSchema` lets through. -/
structure PaymentWebhookPayload where
  paymentId : String
  invoiceId : String
  customerId : String
  amount : Rat
  status : WebhookStatus
  timestamp : String
  positive : 0 < amount

def PaymentWebhookPayload.parse (body : JsValue) : Option PaymentWebhookPayload :=
  match body.field "paymentId", body.field "invoiceId", body.field "customerId",
      body.field "amount", body.field "status", body.field "timestamp" with
  | .str paymentId, .str invoiceId, .str customerId, .num amount, .str status, .str timestamp =>
      ([WebhookStatus.success, .failed].find? fun known => known.text = status).bind fun status =>
        if positive : 0 < amount then
          some ⟨paymentId, invoiceId, customerId, amount, status, timestamp, positive⟩
        else none
  | _, _, _, _, _, _ => none

/-- JavaScript `+` on amounts; `null` stands for `NaN`. -/
def addAmounts : JsValue → JsValue → JsValue
  | .num left, .num right => .num (left + right)
  | _, _ => .null

/-- A value inside a template text. -/
def templateText : JsValue → String
  | .str text => text
  | .undefined => "undefined"
  | .null => "null"
  | .bool value => if value then "true" else "false"
  | .num value => toString value
  | .date _ | .arr _ | .obj _ => "[object Object]"

/-! ### The process -/

inductive WebhookEffect : Type
  | invalidates (pattern : String)
  | notifies
  deriving DecidableEq, Repr

/-- A charge that is about to be executed, and a side effect of a webhook delivery
that is about to be carried out. -/
inductive PaymentMark : Type
  | charges (charge : Invocation)
  | affects (payload : PaymentWebhookPayload) (effect : WebhookEffect)

inductive PaymentCall : Type
  | createPayment (context : Option RequestContext) (customerId : String) (body : JsValue)
  | createBatchPayment (context : Option RequestContext) (customerId : String) (body : JsValue)
  | handleWebhook (context : Option RequestContext) (body : JsValue)

/-- The only state of its own is that of the idempotency service. -/
def payment : Extension where
  State := MemoryStore
  Req := Empty
  Ans := Empty.elim
  Mark := PaymentMark
  Call := PaymentCall

instance : DecidableEq (portSignature payment).Req :=
  inferInstanceAs (DecidableEq (PortRequest ⊕ Empty))

abbrev PaymentTask := PortTask payment

/-- The cache service is always injected. -/
def paymentHost : IdempotencyHost payment where
  cacheService := true
  memoryStore := id
  setMemoryStore store _ := store
  kept _ _ := rfl

namespace PaymentService

/-! ### Charges -/

def invoiceRead (context : Option RequestContext) (customerId invoiceId : String) :
    Invocation where
  context := context
  portName := "invoice"
  method := "get-by-id"
  params := .obj [("invoiceId", .str invoiceId), ("customerId", .str customerId),
    ("useCache", .bool false)]
  idempotencyKey := none

def charge (context : Option RequestContext) (customerId : String)
    (request : CreatePaymentRequest) (amount : JsValue) : Invocation where
  context := context
  portName := "payment"
  method := "create-payment"
  params := .obj [("invoiceId", .str request.invoiceId), ("customerId", .str customerId),
    ("method", .str request.method.text), ("amount", amount)]
  idempotencyKey := none

def batchCharge (context : Option RequestContext) (customerId : String)
    (request : CreateBatchPaymentRequest) (totalAmount : JsValue) : Invocation where
  context := context
  portName := "payment"
  method := "create-batch-payment"
  params := .obj [("invoiceIds", .arr (request.invoiceIds.map .str)),
    ("customerId", .str customerId), ("method", .str request.method.text),
    ("totalAmount", totalAmount)]
  idempotencyKey := none

/-- The verification both charges begin with, for one invoice. -/
def verifyInvoice (d : Deployment payment) (context : Option RequestContext)
    (customerId invoiceId : String) : PaymentTask JsValue := do
  let invoiceResult ← PortRegistry.execute d (invoiceRead context customerId invoiceId)
  let invoice := invoiceResult.data
  if invoice.truthy then
    if invoice.field "paymentStatus" = .str "unpaid" then return invoice
    else
      .fail (.forbidden ("Invoice " ++ invoiceId ++ " is not available for payment. " ++
        "Current status: " ++ templateText (invoice.field "paymentStatus")))
  else .fail (.notFound ("Invoice " ++ invoiceId ++ " not found") "NOT_FOUND" .undefined)

def createPayment (d : Deployment payment) (context : Option RequestContext)
    (customerId : String) (body : JsValue) : PaymentTask JsValue :=
  match CreatePaymentRequest.parse body with
  | none => .fail (.validation "Invalid payment request")
  | some request => do
      let invoice ← verifyInvoice d context customerId request.invoiceId
      let charge := charge context customerId request (invoice.field "totalAmount")
      Task.note (.inr (.charges charge))
      let paymentResult ← PortRegistry.execute d charge
      if paymentResult.data.truthy then return paymentResult.data
      else
        .fail (.notFound ("Payment creation failed for invoice " ++ request.invoiceId ++
          " — no response from payment service") "NOT_FOUND" .undefined)

/-- The loop over the invoices of a batch. -/
def verifyInvoices (d : Deployment payment) (context : Option RequestContext)
    (customerId : String) : List String → JsValue → PaymentTask JsValue
  | [], totalAmount => .done totalAmount
  | invoiceId :: rest, totalAmount => do
      let invoice ← verifyInvoice d context customerId invoiceId
      verifyInvoices d context customerId rest
        (addAmounts totalAmount (invoice.field "totalAmount"))

/-- The log line after a batch reads the payment of a result that may be missing. -/
def createBatchPayment (d : Deployment payment) (context : Option RequestContext)
    (customerId : String) (body : JsValue) : PaymentTask JsValue :=
  match CreateBatchPaymentRequest.parse body with
  | none => .fail (.validation "Invalid batch payment request")
  | some request => do
      let totalAmount ← verifyInvoices d context customerId request.invoiceIds (.num 0)
      let charge := batchCharge context customerId request totalAmount
      Task.note (.inr (.charges charge))
      let paymentResult ← PortRegistry.execute d charge
      if paymentResult.data.isNullish then
        .fail (.error ("TypeError: Cannot read properties of " ++
          templateText paymentResult.data ++ " (reading 'paymentId')"))
      else return paymentResult.data

/-! ### Webhooks -/

def invoicePattern : String := "cache:v2:port:invoice:*"

def debtPattern : String := "cache:v2:port:debt:*"

def completedNotice (context : Option RequestContext) (payload : PaymentWebhookPayload) :
    Invocation where
  context := context
  portName := "notification"
  method := "dispatch-notification"
  params := .obj [("customerId", .str payload.customerId), ("type", .str "payment_completed"),
    ("isCritical", .bool true), ("invoiceId", .str payload.invoiceId),
    ("amount", .num payload.amount), ("metadata", .obj [("paymentId", .str payload.paymentId)])]
  idempotencyKey := none

def failedNotice (context : Option RequestContext) (payload : PaymentWebhookPayload) :
    Invocation where
  context := context
  portName := "notification"
  method := "dispatch-notification"
  params := .obj [("customerId", .str payload.customerId), ("type", .str "payment_failed"),
    ("isCritical", .bool true), ("invoiceId", .str payload.invoiceId),
    ("metadata", .obj [("paymentId", .str payload.paymentId),
      ("status", .str payload.status.text)])]
  idempotencyKey := none

def duplicateResult (payload : PaymentWebhookPayload) : JsValue :=
  .obj [("processed", .bool false), ("paymentId", .str payload.paymentId),
    ("status", .str "duplicate")]

def processedResult (payload : PaymentWebhookPayload) : JsValue :=
  .obj [("processed", .bool true), ("paymentId", .str payload.paymentId),
    ("status", .str payload.status.text)]

def invalidate (d : Deployment payment) (payload : PaymentWebhookPayload) (pattern : String) :
    PaymentTask Unit := do
  Task.note (.inr (.affects payload (.invalidates pattern)))
  let _ ← (CacheService.deleteByPattern d.backend.kind pattern : PaymentTask Nat)
  return ()

/-- A notification that cannot be dispatched is logged and forgotten. -/
def notify (d : Deployment payment) (payload : PaymentWebhookPayload) (notice : Invocation) :
    PaymentTask Unit := do
  Task.note (.inr (.affects payload .notifies))
  let _ ← (PortRegistry.execute d notice).attempt
  return ()

/-- The side effects of one delivery. -/
def process (d : Deployment payment) (context : Option RequestContext)
    (payload : PaymentWebhookPayload) : PaymentTask Unit :=
  match payload.status with
  | .success => do
      invalidate d payload invoicePattern
      invalidate d payload debtPattern
      notify d payload (completedNotice context payload)
  | .failed => notify d payload (failedNotice context payload)

def handleWebhook (d : Deployment payment) (context : Option RequestContext) (body : JsValue) :
    PaymentTask JsValue :=
  match PaymentWebhookPayload.parse body with
  | none => .fail (.validation "Invalid payment webhook payload")
  | some payload => do
      let existing ← IdempotencyService.getExisting paymentHost payload.paymentId none
      if existing.truthy then return duplicateResult payload
      else
        process d context payload
        IdempotencyService.store paymentHost payload.paymentId (processedResult payload)
          "HandlePaymentWebhook" none
        return processedResult payload

end PaymentService

def paymentBody (d : Deployment payment) : PaymentCall → PaymentTask Resolution
  | .createPayment context customerId body => do
      let created ← PaymentService.createPayment d context customerId body
      return .value created
  | .createBatchPayment context customerId body => do
      let created ← PaymentService.createBatchPayment d context customerId body
      return .value created
  | .handleWebhook context body => do
      let result ← PaymentService.handleWebhook d context body
      return .value result

def paymentService (d : Deployment payment) : Service payment where
  body := paymentBody d
  perform _ request _ := request.elim

/-- Every adapter may answer anything at any time. -/
def paymentDeployment (wiring : Wiring) (environment : CacheEnvironment) :
    Deployment payment where
  toWiring := wiring
  adapter := remoteAdapter
  environment := environment

abbrev paymentSystem (d : Deployment payment) :
    System (portSignature payment) Resolution PortExternal :=
  portSystem d (paymentService d)

end SelfService
