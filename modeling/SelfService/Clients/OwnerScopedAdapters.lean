/-
The mock adapters that scope their records by customer.

Invoices and meters carry a server-side mark of their owner, and reports their
reporter.  What a customer may not see is answered like what does not exist.
-/

import Mathlib.Algebra.Order.Ring.Unbundled.Rat
import SelfService.Core.Exceptions
import SelfService.Core.JsNumber
import SelfService.Data.OrderedMap

namespace SelfService

open Data

/-! ### Values -/

/-- What the adapters compute with numbers and texts: `Number(value)`, `String(value)`,
`Math.round(amount * factor)` and `Math.round(amount / divisor)`. -/
structure AdapterRuntime where
  number : JsValue → JsNumber
  text : JsValue → String
  roundTimes : Rat → Rat → Rat
  roundOver : Rat → Rat → Rat

namespace JsValue

/-- The `??` of the sources. -/
def orElse (value otherwise : JsValue) : JsValue :=
  if value.isNullish then otherwise else value

/-- `{...object, name: value}` -/
def putField (name : String) (value : JsValue) : List (String × JsValue) → List (String × JsValue)
  | [] => [(name, value)]
  | (other, old) :: rest =>
      if other = name then (name, value) :: rest else (other, old) :: putField name value rest

def withField (object : JsValue) (name : String) (value : JsValue) : JsValue :=
  match object with
  | .obj fields => .obj (putField name value fields)
  | other => other

end JsValue

/-- The rest of a record without the mark of its owner. -/
def withoutOwner (fields : List (String × JsValue)) : JsValue :=
  .obj (fields.filter fun field => field.1 ≠ "ownerCustomerId")

/-! ### Records -/

structure RawInvoiceItem where
  invoiceId : String
  contractId : String
  period : String
  totalAmount : Rat
  paymentStatus : String
  issueDate : String
  dueDate : Option String
  ownerCustomerId : String
  deriving DecidableEq

def RawInvoiceItem.fields (item : RawInvoiceItem) : List (String × JsValue) :=
  [("invoiceId", .str item.invoiceId), ("contractId", .str item.contractId),
    ("period", .str item.period), ("totalAmount", .num item.totalAmount),
    ("paymentStatus", .str item.paymentStatus), ("issueDate", .str item.issueDate)] ++
    (item.dueDate.toList.map fun dueDate => ("dueDate", .str dueDate)) ++
    [("ownerCustomerId", .str item.ownerCustomerId)]

/-- The raw list, with the page and the limit that the file gives or their defaults. -/
structure RawInvoices where
  items : List RawInvoiceItem
  page : Rat
  limit : Rat

structure RawMeter where
  meterId : String
  ownerCustomerId : String
  others : List (String × JsValue)
  deriving DecidableEq

def RawMeter.fields (meter : RawMeter) : List (String × JsValue) :=
  ("meterId", .str meter.meterId) :: ("ownerCustomerId", .str meter.ownerCustomerId) ::
    meter.others

structure MockReport where
  reportId : String
  customerId : JsValue
  type : JsValue
  description : JsValue
  photoUrls : JsValue
  location : JsValue
  status : String
  incidentId : Option String
  createdAt : String
  updatedAt : String
  deriving DecidableEq

def textOrNull : Option String → JsValue
  | none => .null
  | some text => .str text

def MockReport.fields (report : MockReport) : List (String × JsValue) :=
  [("reportId", .str report.reportId), ("customerId", report.customerId), ("type", report.type),
    ("description", report.description), ("photoUrls", report.photoUrls),
    ("location", report.location), ("status", .str report.status),
    ("incidentId", textOrNull report.incidentId), ("createdAt", .str report.createdAt),
    ("updatedAt", .str report.updatedAt)]

/-- What the three adapters keep. -/
structure RecordStores where
  invoices : RawInvoices
  meters : List RawMeter
  reports : OrderedMap String MockReport
  reportCounter : Nat

/-! ### Requests and answers -/

inductive OwnerScopedMethod : Type
  | getList
  | getById
  | getMeterByCustomer
  | getCalibrationStatus
  | getMeterHistory
  | createReport
  | getMyReports
  | getReportDetail
  deriving DecidableEq

structure AdapterRequest where
  method : OwnerScopedMethod
  params : JsValue
  now : Nat

inductive AdapterAnswer : Type
  | invoices (items : List JsValue) (totalCount : Nat) (page limit totalPages : JsNumber)
  | meters (items : List JsValue) (totalCount : Nat)
  | reports (items : List MockReport) (totalCount : Nat)
  | value (data : JsValue)
  deriving DecidableEq

/-! ### Fixtures -/

/-- `mocks/invoice/get-by-id.json`, as its schema lets it through. -/
def invoiceFixture : JsValue :=
  let line (description : String) (volume unitPrice amount : Rat) : JsValue :=
    .obj [("description", .str description), ("volume", .num volume),
      ("unitPrice", .num unitPrice), ("amount", .num amount)]
  let fee (feeName : String) (amount : Rat) : JsValue :=
    .obj [("feeName", .str feeName), ("amount", .num amount)]
  .obj [("invoiceId", .str "INV-2026-001"), ("contractId", .str "CTR-2024-0001"),
    ("period", .str "2026-05"),
    ("lineItems", .arr [
      line "Tiêu thụ nước sinh hoạt (bậc 1: 0-10m³)" 10 5973 59730,
      line "Tiêu thụ nước sinh hoạt (bậc 2: 10-20m³)" (11 / 2) 7052 38786,
      line "Phí bảo vệ môi trường (10%)" (31 / 2) (5973 / 10) 9258,
      line "Phí thoát nước (5%)" (31 / 2) (29865 / 100) 4629]),
    ("subtotal", .num 112403),
    ("fees", .arr [fee "Phụ phí vùng sâu vùng xa" 5000, fee "Thuế GTGT (5%)" 5870]),
    ("totalAmount", .num 123273), ("paymentStatus", .str "unpaid"),
    ("cqtCode", .str "CQT-2026-00001-HĐT"), ("lookupCode", .str "F33/2026/ABCDEF123"),
    ("issueDate", .str "2026-06-01T00:00:00Z"), ("dueDate", .str "2026-06-15T00:00:00Z")]

/-- `mocks/meter/get-calibration-status.json` -/
def calibrationFixture : JsValue :=
  .obj [("meterId", .str "MT-001"), ("status", .str "expiring_soon"),
    ("lastCalibrationDate", .str "2024-06-15"), ("nextCalibrationDate", .str "2026-06-15"),
    ("certificateNumber", .str "CAL-2024-00123")]

/-- `mocks/meter/get-meter-history.json` -/
def historyFixture : JsValue :=
  let entry (eventDate eventType description performedBy : String) : JsValue :=
    .obj [("eventDate", .str eventDate), ("eventType", .str eventType),
      ("description", .str description), ("performedBy", .str performedBy)]
  .obj [("entries", .arr [
      entry "2023-06-15" "installation" "Đồng hồ nước cơ học DN15 lắp đặt mới tại khu dân cư"
        "Kỹ sư Nguyễn Văn A",
      entry "2024-06-15" "calibration" "Hiệu chuẩn định kỳ lần 1 — đạt chuẩn Class B"
        "Trung tâm Kiểm định Đo lường",
      entry "2024-08-20" "replacement"
        "Thay thế đồng hồ do lỗi bánh răng — chuyển từ cơ học sang siêu âm"
        "Kỹ sư Trần Văn B"]),
    ("totalCount", .num 3)]

/-! ### Adapters -/

/-- Whether the caller may see what this customer owns; a caller without a customer id sees
everything. -/
def ownedBy (customerId : JsValue) (owner : JsValue) : Bool :=
  !customerId.truthy || owner = customerId

namespace MockInvoiceAdapter

def notFound (invoiceId : JsValue) : Exn :=
  .notFound "Invoice not found" "INVOICE_NOT_FOUND" (.obj [("invoiceId", invoiceId)])

def getList (runtime : AdapterRuntime) (raw : RawInvoices) (params : JsValue) : AdapterAnswer :=
  let customerId := params.field "customerId"
  let owned := raw.items.filter fun item => ownedBy customerId (.str item.ownerCustomerId)
  let pageSize := (runtime.number ((params.field "limit").orElse (.num raw.limit))).atLeast 1
  let pageNum := (runtime.number ((params.field "page").orElse (.num raw.page))).atLeast 1
  let start := (pageNum.add (.finite (-1))).mul pageSize
  let paged := sliceOf start (start.add pageSize) owned
  .invoices (paged.map fun item => withoutOwner item.fields) owned.length pageNum pageSize
    ((pageSize.ceilOfDivided owned.length).atLeast 1)

def lastSix (text : String) : String :=
  String.ofList (text.toList.drop (text.length - 6))

def buildDetail (runtime : AdapterRuntime) (item : RawInvoiceItem) : JsValue :=
  let total := item.totalAmount
  let vat := runtime.roundTimes total (5 / 100)
  let environmental := runtime.roundTimes total (10 / 100)
  let subtotal := total - vat - environmental
  let volume := max 1 (runtime.roundOver subtotal 5920)
  .obj [("invoiceId", .str item.invoiceId), ("contractId", .str item.contractId),
    ("period", .str item.period),
    ("lineItems", .arr [.obj [("description", .str "Tiêu thụ nước sinh hoạt"),
      ("volume", .num volume), ("unitPrice", .num 5920), ("amount", .num subtotal)]]),
    ("fees", .arr [
      .obj [("feeName", .str "Phí bảo vệ môi trường (10%)"), ("amount", .num environmental)],
      .obj [("feeName", .str "VAT (5%)"), ("amount", .num vat)]]),
    ("subtotal", .num subtotal), ("totalAmount", .num total),
    ("paymentStatus", .str item.paymentStatus), ("cqtCode", .str ("CQT-" ++ item.invoiceId)),
    ("lookupCode", .str ("LK-" ++ lastSix item.invoiceId)), ("issueDate", .str item.issueDate),
    ("dueDate", textOrNull item.dueDate)]

def getById (runtime : AdapterRuntime) (raw : RawInvoices) (params : JsValue) :
    Except Exn AdapterAnswer :=
  let invoiceId := params.field "invoiceId"
  if !invoiceId.truthy then .ok (.value invoiceFixture)
  else
    match raw.items.find? fun item => JsValue.str item.invoiceId = invoiceId with
    | none => .error (notFound invoiceId)
    | some item =>
        if ownedBy (params.field "customerId") (.str item.ownerCustomerId) then
          .ok (.value (buildDetail runtime item))
        else .error (notFound invoiceId)

end MockInvoiceAdapter

namespace MockMeterAdapter

def notFound (meterId : String) : Exn :=
  .notFound "Meter not found" "METER_NOT_FOUND" (.obj [("meterId", .str meterId)])

def getByCustomer (meters : List RawMeter) (params : JsValue) : AdapterAnswer :=
  let owned := meters.filter fun meter =>
    ownedBy (params.field "customerId") (.str meter.ownerCustomerId)
  .meters (owned.map fun meter => withoutOwner meter.fields) owned.length

def assertOwned (meters : List RawMeter) (meterId : String) (customerId : JsValue) :
    Except Exn Unit :=
  match meters.find? fun meter => meter.meterId = meterId with
  | none => .error (notFound meterId)
  | some meter =>
      if ownedBy customerId (.str meter.ownerCustomerId) then .ok ()
      else .error (notFound meterId)

/-- `get-calibration-status` and `get-meter-history`. -/
def ofMeter (runtime : AdapterRuntime) (meters : List RawMeter) (fixture params : JsValue) :
    Except Exn AdapterAnswer :=
  let meterId := params.field "meterId"
  if meterId.truthy then
    match assertOwned meters (runtime.text meterId) (params.field "customerId") with
    | .error error => .error error
    | .ok () => .ok (.value (fixture.withField "meterId" meterId))
  else .ok (.value fixture)

end MockMeterAdapter

namespace MockIncidentAdapter

def notFound (reportId : JsValue) : Exn :=
  .notFound "Report not found" "REPORT_NOT_FOUND" (.obj [("reportId", reportId)])

def reportIdOf (counter : Nat) : String := "SC-2026-" ++ JsValue.padded 5 counter

def newReport (counter : Nat) (params : JsValue) (now : Nat) : MockReport where
  reportId := reportIdOf counter
  customerId := params.field "customerId"
  type := (params.field "type").orElse (.str "other")
  description := (params.field "description").orElse (.str "")
  photoUrls := (params.field "photoUrls").orElse (.arr [])
  location := (params.field "location").orElse (.obj [("lat", .num 0), ("lng", .num 0),
    ("address", .str ""), ("area", .str "")])
  status := "submitted"
  incidentId := none
  createdAt := JsValue.toISOString now
  updatedAt := JsValue.toISOString now

def createReport (reports : OrderedMap String MockReport) (reportCounter : Nat) (params : JsValue)
    (now : Nat) : AdapterAnswer × OrderedMap String MockReport :=
  let report := newReport (reportCounter + 1) params now
  (.value (.obj [("reportId", .str report.reportId), ("status", .str report.status),
      ("incidentId", .null), ("message", .str "Phản ánh đã tiếp nhận.")]),
    reports.set report.reportId report)

def getMyReports (reports : OrderedMap String MockReport) (params : JsValue) : AdapterAnswer :=
  let status := params.field "status"
  let owned := (reports.entries.map Prod.snd).filter fun report =>
    ownedBy (params.field "customerId") report.customerId
  let listed := owned.filter fun report => !status.truthy || JsValue.str report.status = status
  .reports listed listed.length

def incidentSummary (report : MockReport) : JsValue :=
  match report.incidentId with
  | none | some "" => .null
  | some incidentId =>
      .obj [("incidentId", .str incidentId), ("type", .str "pipe_burst"),
        ("status", .str report.status), ("severity", .str "high"), ("affectedCustomers", .num 42),
        ("assignedTeam", .str "TEAM-CP-03")]

/-- Only texts are keys of the map. -/
def getReport (reports : OrderedMap String MockReport) : JsValue → Option MockReport
  | .str reportId => reports.get? reportId
  | _ => none

def getReportDetail (reports : OrderedMap String MockReport) (params : JsValue) :
    Except Exn AdapterAnswer :=
  let reportId := params.field "reportId"
  match getReport reports reportId with
  | none => .error (notFound reportId)
  | some report =>
      if ownedBy (params.field "customerId") report.customerId then
        .ok (.value (.obj (report.fields ++ [("incidentSummary", incidentSummary report)])))
      else .error (notFound reportId)

end MockIncidentAdapter

namespace RecordStores

def execute (runtime : AdapterRuntime) (request : AdapterRequest) (stores : RecordStores) :
    Except Exn AdapterAnswer × RecordStores :=
  let params := request.params
  match request.method with
  | .getList => (.ok (MockInvoiceAdapter.getList runtime stores.invoices params), stores)
  | .getById => (MockInvoiceAdapter.getById runtime stores.invoices params, stores)
  | .getMeterByCustomer => (.ok (MockMeterAdapter.getByCustomer stores.meters params), stores)
  | .getCalibrationStatus =>
      (MockMeterAdapter.ofMeter runtime stores.meters calibrationFixture params, stores)
  | .getMeterHistory =>
      (MockMeterAdapter.ofMeter runtime stores.meters historyFixture params, stores)
  | .createReport =>
      let (answer, reports) := MockIncidentAdapter.createReport stores.reports
        stores.reportCounter params request.now
      (.ok answer, { stores with reports, reportCounter := stores.reportCounter + 1 })
  | .getMyReports => (.ok (MockIncidentAdapter.getMyReports stores.reports params), stores)
  | .getReportDetail => (MockIncidentAdapter.getReportDetail stores.reports params, stores)

def answers (runtime : AdapterRuntime) : RecordStores → List AdapterRequest →
    List (Except Exn AdapterAnswer)
  | _, [] => []
  | stores, request :: rest =>
      let (answer, next) := stores.execute runtime request
      answer :: next.answers runtime rest

end RecordStores

end SelfService
