/-
What the owner-mine adapters tell a customer of the records of others.

Two stores that differ in the records of others only answer a customer alike, unless
a report of another customer has an id that is still to be given away: the new report
then takes its place in the order of the reports.
-/

import SelfService.Clients.OwnerScopedAdapters

/-! ### Searching what is owned -/

/-- Where one element at most is looked for, it may as well be looked for among the others of
its kind. -/
theorem find?_filter_of_unique {α : Type} {items : List α} {sought kind : α → Bool}
    (unique : ∀ first ∈ items, ∀ second ∈ items, sought first = true → sought second = true →
      first = second) :
    (items.filter kind).find? sought = (items.find? sought).filter kind := by
  cases found : items.find? sought with
  | none =>
      rw [Option.filter_none, List.find?_eq_none]
      intro item member
      exact List.find?_eq_none.mp found item (List.mem_of_mem_filter member)
  | some item =>
      have meets := List.find?_some found
      have listed := List.mem_of_find?_eq_some found
      by_cases chosen : kind item = true
      · rw [Option.filter_some, if_pos chosen]
        cases again : (items.filter kind).find? sought with
        | none =>
            have missed := List.find?_eq_none.mp again item (List.mem_filter.mpr ⟨listed, chosen⟩)
            exact absurd meets missed
        | some other =>
            have there := List.mem_of_mem_filter (List.mem_of_find?_eq_some again)
            rw [unique other there item listed (List.find?_some again) meets]
      · rw [Option.filter_some, if_neg chosen, List.find?_eq_none]
        intro other member sought'
        have kept := List.mem_filter.mp member
        rw [unique other kept.1 item listed sought' meets] at kept
        exact chosen kept.2

namespace Data.OrderedMap

variable {κ ν : Type} [DecidableEq κ]

theorem mem_putIn {key : κ} {value : ν} {entries : List (κ × ν)} {entry : κ × ν}
    (member : entry ∈ putIn key value entries) : entry = (key, value) ∨ entry ∈ entries := by
  induction entries with
  | nil => exact Or.inl (List.mem_singleton.mp member)
  | cons head rest ih =>
      rw [putIn] at member
      split at member
      · rcases List.mem_cons.mp member with here | later
        · exact Or.inl here
        · exact Or.inr (List.mem_cons_of_mem _ later)
      · rcases List.mem_cons.mp member with here | later
        · exact Or.inr (here ▸ List.mem_cons_self)
        · exact (ih later).imp_right (List.mem_cons_of_mem _)

/-- An entry of the kind takes its place among those of the kind. -/
theorem filter_putIn {key : κ} {value : ν} (entries : List (κ × ν)) (kind : ν → Bool)
    (chosen : kind value = true)
    (replaced : ∀ old, (key, old) ∈ entries → kind old = true) :
    (putIn key value entries).filter (fun entry => kind entry.2) =
      putIn key value (entries.filter fun entry => kind entry.2) := by
  induction entries with
  | nil => simp [putIn, chosen]
  | cons head rest ih =>
      have later := ih fun old member => replaced old (List.mem_cons_of_mem _ member)
      by_cases same : head.1 = key
      · have kept : kind head.2 = true := replaced head.2 (same ▸ List.mem_cons_self)
        simp [putIn, same, chosen, kept]
      · by_cases kept : kind head.2 = true
        · simp [putIn, same, kept, later]
        · simp [putIn, same, kept, later]

theorem lookupIn_filter_value {key : κ} {entries : List (κ × ν)} (kind : ν → Bool)
    (distinct : (entries.map Prod.fst).Nodup) :
    lookupIn key (entries.filter fun entry => kind entry.2) =
      (lookupIn key entries).filter kind := by
  induction entries with
  | nil => rfl
  | cons head rest ih =>
      rw [List.map_cons, List.nodup_cons] at distinct
      have later := ih distinct.2
      by_cases same : head.1 = key
      · have absent : lookupIn key rest = none := by
          cases found : lookupIn key rest with
          | none => rfl
          | some value =>
              have listed : key ∈ (⟨rest, distinct.2⟩ : OrderedMap κ ν).keys :=
                mem_keys_of_get? found
              have member : head.1 ∈ rest.map Prod.fst := same ▸ listed
              exact absurd member distinct.1
        rw [absent] at later
        by_cases kept : kind head.2 = true
        · simp [lookupIn, same, kept, Option.filter_some]
        · simp [lookupIn, same, kept, later, Option.filter_some]
      · by_cases kept : kind head.2 = true
        · simp [lookupIn, same, kept, later]
        · simp [lookupIn, same, kept, later]

end Data.OrderedMap

namespace SelfService

open Data

/-! ### Two stores -/

/-- Both stores have the same records of the customer, in the same order. -/
structure SameOwned (customerId : JsValue) (first second : RecordStores) : Prop where
  invoices : (first.invoices.items.filter fun item =>
      ownedBy customerId (.str item.ownerCustomerId)) =
    second.invoices.items.filter fun item => ownedBy customerId (.str item.ownerCustomerId)
  page : first.invoices.page = second.invoices.page
  limit : first.invoices.limit = second.invoices.limit
  meters : (first.meters.filter fun meter => ownedBy customerId (.str meter.ownerCustomerId)) =
    second.meters.filter fun meter => ownedBy customerId (.str meter.ownerCustomerId)
  reports : (first.reports.entries.filter fun entry => ownedBy customerId entry.2.customerId) =
    second.reports.entries.filter fun entry => ownedBy customerId entry.2.customerId
  reportCounter : first.reportCounter = second.reportCounter

/-- Ids are unique, and no report of another customer has an id that is still to be given
away. -/
structure WellNumbered (customerId : JsValue) (stores : RecordStores) : Prop where
  invoices : (stores.invoices.items.map RawInvoiceItem.invoiceId).Nodup
  meters : (stores.meters.map RawMeter.meterId).Nodup
  reports : ∀ entry ∈ stores.reports.entries, ownedBy customerId entry.2.customerId = false →
    ∀ counter, stores.reportCounter < counter →
      entry.1 ≠ MockIncidentAdapter.reportIdOf counter

/-! ### Ids that were given away -/

theorem reportIdOf_inj {first second : Nat} (same : MockIncidentAdapter.reportIdOf first =
    MockIncidentAdapter.reportIdOf second) : first = second := by
  have decoded (counter : Nat) :
      Nat.ofDigitChars 10 (JsValue.padded 5 counter).toList 0 = counter := by
    simp [JsValue.padded, Nat.ofDigitChars_append, Nat.ofDigitChars_replicate_zero,
      Nat.ofDigitChars_ten_toDigits]
  have padded := (String.append_right_inj _).mp same
  rw [← decoded first, padded, decoded second]

/-- All reports have ids of the counter. -/
def Numbered (stores : RecordStores) : Prop :=
  ∀ entry ∈ stores.reports.entries, ∃ counter ≤ stores.reportCounter,
    entry.1 = MockIncidentAdapter.reportIdOf counter

theorem Numbered.reports {stores : RecordStores} (numbered : Numbered stores)
    (entry : String × MockReport) (member : entry ∈ stores.reports.entries) (counter : Nat)
    (later : stores.reportCounter < counter) :
    entry.1 ≠ MockIncidentAdapter.reportIdOf counter := by
  obtain ⟨given, bound, same⟩ := numbered entry member
  intro equal
  have number := reportIdOf_inj (same.symm.trans equal)
  omega

/-- So it is in every store that the adapter reaches: it stays so with every request. -/
theorem Numbered.execute {stores : RecordStores} (numbered : Numbered stores)
    (runtime : AdapterRuntime) (request : AdapterRequest) :
    Numbered (stores.execute runtime request).2 := by
  unfold RecordStores.execute
  cases request.method with
  | createReport =>
      intro entry member
      rcases OrderedMap.mem_putIn member with new | old
      · exact ⟨stores.reportCounter + 1, le_refl _, congrArg Prod.fst new⟩
      · obtain ⟨counter, bound, same⟩ := numbered entry old
        exact ⟨counter, Nat.le_succ_of_le bound, same⟩
  | _ => exact numbered

section Noninterference

variable {runtime : AdapterRuntime} {customerId : JsValue} {params : JsValue}
  {first second : RecordStores}

theorem getList_same (same : SameOwned customerId first second)
    (mine : params.field "customerId" = customerId) :
    MockInvoiceAdapter.getList runtime first.invoices params =
      MockInvoiceAdapter.getList runtime second.invoices params := by
  simp only [MockInvoiceAdapter.getList, mine, same.invoices, same.page, same.limit]

theorem getById_owned (numbered : WellNumbered customerId first)
    (mine : params.field "customerId" = customerId) :
    MockInvoiceAdapter.getById runtime first.invoices params =
      if !(params.field "invoiceId").truthy then .ok (.value invoiceFixture)
      else
        match (first.invoices.items.filter fun item =>
            ownedBy customerId (.str item.ownerCustomerId)).find? fun item =>
              JsValue.str item.invoiceId = params.field "invoiceId" with
        | none => .error (MockInvoiceAdapter.notFound (params.field "invoiceId"))
        | some item => .ok (.value (MockInvoiceAdapter.buildDetail runtime item)) := by
  have unique : ∀ item ∈ first.invoices.items, ∀ other ∈ first.invoices.items,
      decide (JsValue.str item.invoiceId = params.field "invoiceId") = true →
        decide (JsValue.str other.invoiceId = params.field "invoiceId") = true →
          item = other := by
    intro item there other also here equal
    apply List.inj_on_of_nodup_map numbered.invoices there also
    exact JsValue.str.inj ((of_decide_eq_true here).trans (of_decide_eq_true equal).symm)
  rw [find?_filter_of_unique unique, MockInvoiceAdapter.getById, mine]
  cases first.invoices.items.find? fun item =>
      JsValue.str item.invoiceId = params.field "invoiceId" with
  | none => rfl
  | some item =>
      by_cases own : ownedBy customerId (.str item.ownerCustomerId) = true
      · simp [own, Option.filter_some]
      · simp [own, Option.filter_some]

theorem getById_same (same : SameOwned customerId first second)
    (numbered : WellNumbered customerId first) (also : WellNumbered customerId second)
    (mine : params.field "customerId" = customerId) :
    MockInvoiceAdapter.getById runtime first.invoices params =
      MockInvoiceAdapter.getById runtime second.invoices params := by
  rw [getById_owned numbered mine, getById_owned also mine, same.invoices]

theorem getByCustomer_same (same : SameOwned customerId first second)
    (mine : params.field "customerId" = customerId) :
    MockMeterAdapter.getByCustomer first.meters params =
      MockMeterAdapter.getByCustomer second.meters params := by
  simp only [MockMeterAdapter.getByCustomer, mine, same.meters]

theorem assertOwned_owned (numbered : WellNumbered customerId first) (meterId : String) :
    MockMeterAdapter.assertOwned first.meters meterId customerId =
      match (first.meters.filter fun meter =>
          ownedBy customerId (.str meter.ownerCustomerId)).find? fun meter =>
            meter.meterId = meterId with
      | none => .error (MockMeterAdapter.notFound meterId)
      | some _ => .ok () := by
  have unique : ∀ meter ∈ first.meters, ∀ other ∈ first.meters,
      decide (meter.meterId = meterId) = true → decide (other.meterId = meterId) = true →
        meter = other := by
    intro meter there other also here equal
    exact List.inj_on_of_nodup_map numbered.meters there also
      ((of_decide_eq_true here).trans (of_decide_eq_true equal).symm)
  rw [find?_filter_of_unique unique, MockMeterAdapter.assertOwned]
  cases first.meters.find? fun meter => meter.meterId = meterId with
  | none => rfl
  | some meter =>
      by_cases own : ownedBy customerId (.str meter.ownerCustomerId) = true
      · simp [own, Option.filter_some]
      · simp [own, Option.filter_some]

theorem ofMeter_same (same : SameOwned customerId first second)
    (numbered : WellNumbered customerId first) (also : WellNumbered customerId second)
    (mine : params.field "customerId" = customerId) (fixture : JsValue) :
    MockMeterAdapter.ofMeter runtime first.meters fixture params =
      MockMeterAdapter.ofMeter runtime second.meters fixture params := by
  simp only [MockMeterAdapter.ofMeter, mine, assertOwned_owned numbered,
    assertOwned_owned also, same.meters]

theorem getMyReports_same (same : SameOwned customerId first second)
    (mine : params.field "customerId" = customerId) :
    MockIncidentAdapter.getMyReports first.reports params =
      MockIncidentAdapter.getMyReports second.reports params := by
  have owned (stores : RecordStores) :
      ((stores.reports.entries.map Prod.snd).filter fun report =>
        ownedBy customerId report.customerId) =
      (stores.reports.entries.filter fun entry =>
        ownedBy customerId entry.2.customerId).map Prod.snd :=
    List.filter_map
  simp only [MockIncidentAdapter.getMyReports, mine, owned, same.reports]

theorem getReport_owned (stores : RecordStores) (reportId : JsValue) :
    (MockIncidentAdapter.getReport stores.reports reportId).filter (fun report =>
        ownedBy customerId report.customerId) =
      match reportId with
      | .str reportId => OrderedMap.lookupIn reportId (stores.reports.entries.filter fun entry =>
          ownedBy customerId entry.2.customerId)
      | _ => none := by
  cases reportId with
  | str reportId =>
      exact (OrderedMap.lookupIn_filter_value (fun report => ownedBy customerId report.customerId)
        stores.reports.distinct).symm
  | _ => rfl

theorem getReportDetail_owned (stores : RecordStores)
    (mine : params.field "customerId" = customerId) :
    MockIncidentAdapter.getReportDetail stores.reports params =
      match (MockIncidentAdapter.getReport stores.reports (params.field "reportId")).filter
          (fun report => ownedBy customerId report.customerId) with
      | none => .error (MockIncidentAdapter.notFound (params.field "reportId"))
      | some report => .ok (.value (.obj (report.fields ++
          [("incidentSummary", MockIncidentAdapter.incidentSummary report)]))) := by
  rw [MockIncidentAdapter.getReportDetail, mine]
  cases MockIncidentAdapter.getReport stores.reports (params.field "reportId") with
  | none => rfl
  | some report =>
      by_cases own : ownedBy customerId report.customerId = true
      · simp [own, Option.filter_some]
      · simp [own, Option.filter_some]

theorem getReportDetail_same (same : SameOwned customerId first second)
    (mine : params.field "customerId" = customerId) :
    MockIncidentAdapter.getReportDetail first.reports params =
      MockIncidentAdapter.getReportDetail second.reports params := by
  rw [getReportDetail_owned first mine, getReportDetail_owned second mine, getReport_owned,
    getReport_owned, same.reports]

/-- The customer's new report takes the same place in both stores. -/
theorem createReport_same (same : SameOwned customerId first second)
    (numbered : WellNumbered customerId first) (also : WellNumbered customerId second)
    (mine : params.field "customerId" = customerId) (now : Nat) :
    let created (stores : RecordStores) :=
      MockIncidentAdapter.createReport stores.reports stores.reportCounter params now
    (created first).1 = (created second).1 ∧
      ((created first).2.entries.filter fun entry => ownedBy customerId entry.2.customerId) =
        (created second).2.entries.filter fun entry => ownedBy customerId entry.2.customerId := by
  have own (counter : Nat) : ownedBy customerId
      (MockIncidentAdapter.newReport counter params now).customerId = true := by
    simp [ownedBy, MockIncidentAdapter.newReport, mine]
  have replaced (stores : RecordStores) (fine : WellNumbered customerId stores) :
      ∀ old, (MockIncidentAdapter.reportIdOf (stores.reportCounter + 1), old) ∈
        stores.reports.entries → ownedBy customerId old.customerId = true := by
    intro old member
    by_contra foreign
    exact fine.reports _ member (Bool.not_eq_true _ ▸ foreign) _ (Nat.lt_succ_self _) rfl
  have placed (stores : RecordStores) (fine : WellNumbered customerId stores) :=
    OrderedMap.filter_putIn stores.reports.entries
      (fun report : MockReport => ownedBy customerId report.customerId)
      (own (stores.reportCounter + 1)) (replaced stores fine)
  simp only [MockIncidentAdapter.createReport, same.reportCounter, true_and]
  have atFirst := placed first numbered
  have atSecond := placed second also
  rw [same.reportCounter, same.reports] at atFirst
  exact atFirst.trans atSecond.symm

theorem createReport_numbered {stores : RecordStores} (numbered : WellNumbered customerId stores)
    (mine : params.field "customerId" = customerId) (now : Nat) :
    ∀ entry ∈ (MockIncidentAdapter.createReport stores.reports stores.reportCounter params
        now).2.entries,
      ownedBy customerId entry.2.customerId = false → ∀ counter,
        stores.reportCounter + 1 < counter →
          entry.1 ≠ MockIncidentAdapter.reportIdOf counter := by
  intro entry member foreign counter later
  rcases OrderedMap.mem_putIn member with new | old
  · rw [new] at foreign
    simp [ownedBy, MockIncidentAdapter.newReport, mine] at foreign
  · exact numbered.reports entry old foreign counter (Nat.lt_of_succ_lt later)

end Noninterference

/-! ### Runs -/

/-- The request is made for the customer. -/
def AdapterRequest.MadeFor (request : AdapterRequest) (customerId : JsValue) : Prop :=
  request.params.field "customerId" = customerId

section Runs

variable {runtime : AdapterRuntime} {customerId : JsValue} {request : AdapterRequest}
  {first second : RecordStores}

theorem execute_numbered {stores : RecordStores} (numbered : WellNumbered customerId stores)
    (mine : request.MadeFor customerId) :
    WellNumbered customerId (stores.execute runtime request).2 := by
  unfold RecordStores.execute
  cases request.method with
  | createReport =>
      exact ⟨numbered.invoices, numbered.meters,
        createReport_numbered numbered mine request.now⟩
  | _ => exact numbered

/-- One request is answered alike, and leaves what is owned alike. -/
theorem execute_same (same : SameOwned customerId first second)
    (numbered : WellNumbered customerId first) (also : WellNumbered customerId second)
    (mine : request.MadeFor customerId) :
    (first.execute runtime request).1 = (second.execute runtime request).1 ∧
      SameOwned customerId (first.execute runtime request).2
        (second.execute runtime request).2 := by
  unfold RecordStores.execute
  cases request.method with
  | getList => exact ⟨congrArg Except.ok (getList_same same mine), same⟩
  | getById => exact ⟨getById_same same numbered also mine, same⟩
  | getMeterByCustomer => exact ⟨congrArg Except.ok (getByCustomer_same same mine), same⟩
  | getCalibrationStatus => exact ⟨ofMeter_same same numbered also mine _, same⟩
  | getMeterHistory => exact ⟨ofMeter_same same numbered also mine _, same⟩
  | createReport =>
      have ⟨answer, reports⟩ := createReport_same same numbered also mine request.now
      exact ⟨congrArg Except.ok answer, same.invoices, same.page, same.limit, same.meters,
        reports, congrArg (· + 1) same.reportCounter⟩
  | getMyReports => exact ⟨congrArg Except.ok (getMyReports_same same mine), same⟩
  | getReportDetail => exact ⟨getReportDetail_same same mine, same⟩

theorem answers_same (requests : List AdapterRequest) (same : SameOwned customerId first second)
    (numbered : WellNumbered customerId first) (also : WellNumbered customerId second)
    (mine : ∀ request ∈ requests, request.MadeFor customerId) :
    first.answers runtime requests = second.answers runtime requests := by
  induction requests generalizing first second with
  | nil => rfl
  | cons request rest ih =>
      have own := mine request List.mem_cons_self
      have ⟨answer, next⟩ : (first.execute runtime request).1 = (second.execute runtime request).1 ∧
          SameOwned customerId (first.execute runtime request).2
            (second.execute runtime request).2 := execute_same same numbered also own
      have later := ih next (execute_numbered numbered own) (execute_numbered also own)
        fun other member => mine other (List.mem_cons_of_mem _ member)
      rw [RecordStores.answers, RecordStores.answers]
      exact congrArg₂ _ answer later

end Runs

/-! ### One answer -/

theorem ownedBy_str {customerId : String} (named : customerId ≠ "") (owner : JsValue) :
    ownedBy (.str customerId) owner = decide (owner = .str customerId) := by
  simp [ownedBy, JsValue.truthy, named]

/-- No item of a list of invoices or meters, and no detail, has the mark of an owner. -/
def AdapterAnswer.Unmarked : AdapterAnswer → Prop
  | .invoices items _ _ _ _ | .meters items _ =>
      ∀ item ∈ items, item.field "ownerCustomerId" = .undefined
  | .reports _ _ => True
  | .value data => data.field "ownerCustomerId" = .undefined

def AdapterAnswer.total? : AdapterAnswer → Option Nat
  | .invoices _ totalCount _ _ _ | .meters _ totalCount | .reports _ totalCount => some totalCount
  | .value _ => none

/-- How many records of the customer a list is made from. -/
def RecordStores.ownedCount (customerId : String) (request : AdapterRequest)
    (stores : RecordStores) : Nat :=
  match request.method with
  | .getList => stores.invoices.items.countP fun item => item.ownerCustomerId = customerId
  | .getMeterByCustomer => stores.meters.countP fun meter => meter.ownerCustomerId = customerId
  | .getMyReports => stores.reports.entries.countP fun entry =>
      entry.2.customerId = .str customerId &&
        (!(request.params.field "status").truthy ||
          JsValue.str entry.2.status = request.params.field "status")
  | _ => 0

/-- What a request that names a record is answered when there is none. -/
def AdapterRequest.missing? (runtime : AdapterRuntime) (request : AdapterRequest) : Option Exn :=
  match request.method with
  | .getById =>
      let invoiceId := request.params.field "invoiceId"
      if invoiceId.truthy then some (MockInvoiceAdapter.notFound invoiceId) else none
  | .getCalibrationStatus | .getMeterHistory =>
      let meterId := request.params.field "meterId"
      if meterId.truthy then some (MockMeterAdapter.notFound (runtime.text meterId)) else none
  | .getReportDetail => some (MockIncidentAdapter.notFound (request.params.field "reportId"))
  | _ => none

/-- The request names a record of the customer. -/
def RecordStores.HasNamed (runtime : AdapterRuntime) (customerId : String)
    (request : AdapterRequest) (stores : RecordStores) : Prop :=
  match request.method with
  | .getById => ∃ item ∈ stores.invoices.items, item.ownerCustomerId = customerId ∧
      JsValue.str item.invoiceId = request.params.field "invoiceId"
  | .getCalibrationStatus | .getMeterHistory => ∃ meter ∈ stores.meters,
      meter.ownerCustomerId = customerId ∧
        meter.meterId = runtime.text (request.params.field "meterId")
  | .getReportDetail => ∃ entry ∈ stores.reports.entries,
      entry.2.customerId = .str customerId ∧
        JsValue.str entry.1 = request.params.field "reportId"
  | _ => False

/-- The answer has no owner marks, counts only what is the customer's, and takes what is not
the customer's for missing. -/
structure OwnOnly (runtime : AdapterRuntime) (customerId : String) (request : AdapterRequest)
    (stores : RecordStores) : Prop where
  unmarked : ∀ answer, (stores.execute runtime request).1 = .ok answer → answer.Unmarked
  counted : ∀ answer total, (stores.execute runtime request).1 = .ok answer →
    answer.total? = some total → total = stores.ownedCount customerId request
  missing : ∀ error, request.missing? runtime = some error →
    ¬ stores.HasNamed runtime customerId request →
      (stores.execute runtime request).1 = .error error

section Answers

variable {runtime : AdapterRuntime} {customerId : String} {request : AdapterRequest}
  {stores : RecordStores}

theorem field_withoutOwner (fields : List (String × JsValue)) :
    (withoutOwner fields).field "ownerCustomerId" = .undefined := by
  have absent : (fields.filter fun field => field.1 ≠ "ownerCustomerId").lookup
      "ownerCustomerId" = none := by
    rw [List.lookup_eq_none_iff]
    intro field member
    have other := of_decide_eq_true (List.mem_filter.mp member).2
    exact bne_iff_ne.mpr (Ne.symm other)
  rw [withoutOwner, JsValue.field_obj, absent]
  rfl

theorem field_buildDetail (item : RawInvoiceItem) :
    (MockInvoiceAdapter.buildDetail runtime item).field "ownerCustomerId" = .undefined := by
  simp [MockInvoiceAdapter.buildDetail, List.lookup_cons]

theorem lookup_putField {name other : String} (value : JsValue) (apart : other ≠ name)
    (fields : List (String × JsValue)) :
    (JsValue.putField name value fields).lookup other = fields.lookup other := by
  have differs : (other == name) = false := beq_eq_false_iff_ne.mpr apart
  induction fields with
  | nil => rw [JsValue.putField, List.lookup_cons, differs]
  | cons head rest ih =>
      cases head with
      | mk key old =>
          by_cases same : key = name
          · rw [JsValue.putField, if_pos same, List.lookup_cons, List.lookup_cons, same, differs]
          · rw [JsValue.putField, if_neg same, List.lookup_cons, List.lookup_cons, ih]

theorem ofMeter_unmarked {meters : List RawMeter} {fixture params : JsValue}
    {answer : AdapterAnswer} (plain : fixture.field "ownerCustomerId" = .undefined)
    (told : MockMeterAdapter.ofMeter runtime meters fixture params = .ok answer) :
    answer.Unmarked := by
  simp only [MockMeterAdapter.ofMeter] at told
  split at told
  · split at told
    · cases told
    · cases told
      cases fixture with
      | obj fields =>
          rw [AdapterAnswer.Unmarked, JsValue.withField, JsValue.field_obj,
            lookup_putField _ (by decide)]
          exact plain
      | _ => exact plain
  · cases told
    exact plain

theorem execute_unmarked {answer : AdapterAnswer}
    (told : (stores.execute runtime request).1 = .ok answer) : answer.Unmarked := by
  unfold RecordStores.execute at told
  cases method : request.method with
  | getList =>
      rw [method] at told
      cases told
      intro item member
      obtain ⟨raw, -, rfl⟩ := List.mem_map.mp member
      exact field_withoutOwner raw.fields
  | getById =>
      rw [method] at told
      simp only [MockInvoiceAdapter.getById] at told
      split at told
      · cases told
        rfl
      · split at told
        · cases told
        · split at told
          · cases told
            exact field_buildDetail _
          · cases told
  | getMeterByCustomer =>
      rw [method] at told
      cases told
      intro item member
      obtain ⟨raw, -, rfl⟩ := List.mem_map.mp member
      exact field_withoutOwner raw.fields
  | getCalibrationStatus =>
      rw [method] at told
      exact ofMeter_unmarked rfl told
  | getMeterHistory =>
      rw [method] at told
      exact ofMeter_unmarked rfl told
  | createReport =>
      rw [method] at told
      cases told
      rfl
  | getMyReports =>
      rw [method] at told
      cases told
      trivial
  | getReportDetail =>
      rw [method] at told
      simp only [MockIncidentAdapter.getReportDetail] at told
      split at told
      · cases told
      · split at told
        · cases told
          rfl
        · cases told

theorem execute_counted (named : customerId ≠ "") (mine : request.MadeFor (.str customerId))
    {answer : AdapterAnswer} {total : Nat}
    (told : (stores.execute runtime request).1 = .ok answer)
    (counts : answer.total? = some total) : total = stores.ownedCount customerId request := by
  have own : request.params.field "customerId" = .str customerId := mine
  unfold RecordStores.execute at told
  unfold RecordStores.ownedCount
  cases method : request.method with
  | getList =>
      rw [method] at told
      cases told
      cases counts
      simp [own, ownedBy_str named, List.countP_eq_length_filter]
  | getMeterByCustomer =>
      rw [method] at told
      cases told
      cases counts
      simp [own, ownedBy_str named, List.countP_eq_length_filter]
  | getMyReports =>
      rw [method] at told
      cases told
      cases counts
      simp [own, ownedBy_str named, ← List.countP_eq_length_filter, List.countP_map,
        Function.comp_def, Bool.and_comm]
  | getById =>
      rw [method] at told
      simp only [MockInvoiceAdapter.getById] at told
      split at told
      · cases told
        cases counts
      · split at told
        · cases told
        · split at told
          · cases told
            cases counts
          · cases told
  | getReportDetail =>
      rw [method] at told
      simp only [MockIncidentAdapter.getReportDetail] at told
      split at told
      · cases told
      · split at told
        · cases told
          cases counts
        · cases told
  | createReport =>
      rw [method] at told
      cases told
      cases counts
  | _ =>
      rw [method] at told
      simp only [MockMeterAdapter.ofMeter] at told
      split at told
      · split at told
        · cases told
        · cases told
          cases counts
      · cases told
        cases counts

theorem assertOwned_missing (named : customerId ≠ "") {meters : List RawMeter} {meterId : String}
    (absent : ¬ ∃ meter ∈ meters, meter.ownerCustomerId = customerId ∧ meter.meterId = meterId) :
    MockMeterAdapter.assertOwned meters meterId (.str customerId) =
      .error (MockMeterAdapter.notFound meterId) := by
  unfold MockMeterAdapter.assertOwned
  split
  · rfl
  · rename_i meter found
    split
    · rename_i owned
      rw [ownedBy_str named] at owned
      have same : meter.meterId = meterId := by simpa using List.find?_some found
      exact absurd ⟨meter, List.mem_of_find?_eq_some found,
        JsValue.str.inj (of_decide_eq_true owned), same⟩ absent
    · rfl

theorem execute_missing (named : customerId ≠ "") (mine : request.MadeFor (.str customerId))
    {error : Exn} (names : request.missing? runtime = some error)
    (absent : ¬ stores.HasNamed runtime customerId request) :
    (stores.execute runtime request).1 = .error error := by
  have own : request.params.field "customerId" = .str customerId := mine
  unfold AdapterRequest.missing? at names
  unfold RecordStores.HasNamed at absent
  unfold RecordStores.execute
  cases method : request.method with
  | getById =>
      rw [method] at names absent
      simp only [Option.ite_none_right_eq_some, Option.some.injEq] at names
      rw [← names.2]
      simp only [MockInvoiceAdapter.getById, names.1, Bool.not_true, Bool.false_eq_true, if_false]
      split
      · rfl
      · rename_i item found
        split
        · rename_i owned
          rw [own, ownedBy_str named] at owned
          have same : JsValue.str item.invoiceId = request.params.field "invoiceId" := by
            simpa using List.find?_some found
          exact absurd ⟨item, List.mem_of_find?_eq_some found,
            JsValue.str.inj (of_decide_eq_true owned), same⟩ absent
        · rfl
  | getCalibrationStatus =>
      rw [method] at names absent
      simp only [Option.ite_none_right_eq_some, Option.some.injEq] at names
      simp only [MockMeterAdapter.ofMeter, names.1, if_true, own, assertOwned_missing named absent,
        names.2]
  | getMeterHistory =>
      rw [method] at names absent
      simp only [Option.ite_none_right_eq_some, Option.some.injEq] at names
      simp only [MockMeterAdapter.ofMeter, names.1, if_true, own, assertOwned_missing named absent,
        names.2]
  | getReportDetail =>
      rw [method] at names absent
      cases names
      simp only [MockIncidentAdapter.getReportDetail]
      split
      · rfl
      · rename_i report found
        split
        · rename_i owned
          rw [own, ownedBy_str named] at owned
          unfold MockIncidentAdapter.getReport at found
          split at found
          · rename_i reportId same
            exact absurd ⟨_, OrderedMap.mem_of_get? found, of_decide_eq_true owned, same.symm⟩
              absent
          · cases found
        · rfl
  | _ =>
      rw [method] at names
      cases names

end Answers

def reportOf (reportId customerId : String) : MockReport where
  reportId := reportId
  customerId := .str customerId
  type := .str "water_outage"
  description := .str ""
  photoUrls := .arr []
  location := .obj []
  status := "submitted"
  incidentId := none
  createdAt := "2026-07-08T08:12:00Z"
  updatedAt := "2026-07-08T08:12:00Z"

def ownReports : OrderedMap String MockReport :=
  OrderedMap.empty.set "SC-2026-00042" (reportOf "SC-2026-00042" "QN-0912345")

def storesWith (reports : OrderedMap String MockReport) : RecordStores where
  invoices := ⟨[], 1, 10⟩
  meters := []
  reports := reports
  reportCounter := 42

/-- Another customer has a report under the next id. -/
def numberedAhead : RecordStores :=
  storesWith ((OrderedMap.empty.set "SC-2026-00043" (reportOf "SC-2026-00043" "QN-0888891")).set
    "SC-2026-00042" (reportOf "SC-2026-00042" "QN-0912345"))

def plainRuntime : AdapterRuntime where
  number
    | .num value => .finite value
    | _ => .nan
  text _ := "MT-001"
  roundTimes _ _ := 0
  roundOver _ _ := 0

def reportAndList : List AdapterRequest :=
  let params : JsValue := .obj [("customerId", .str "QN-0912345")]
  [⟨.createReport, params, 1783498320000⟩, ⟨.getMyReports, params, 1783498320000⟩]

theorem reportAndList_mine : ∀ request ∈ reportAndList,
    request.MadeFor (.str "QN-0912345") := by
  intro request member
  rcases List.mem_cons.mp member with rfl | later
  · rfl
  · rw [List.mem_singleton.mp later]
    rfl

/-- The other store has a report of another customer too. -/
def seededReports : OrderedMap String MockReport :=
  ownReports.set "SC-2026-00038" (reportOf "SC-2026-00038" "QN-0888891")

theorem storesWith_numbered {reports : OrderedMap String MockReport} {customerId : JsValue}
    (ids : reports.keys ⊆ ["SC-2026-00042", "SC-2026-00038"]) :
    WellNumbered customerId (storesWith reports) := by
  have given : Numbered (storesWith reports) := by
    intro entry member
    have listed := ids (List.mem_map_of_mem member)
    rcases List.mem_cons.mp listed with first | second
    · exact ⟨42, le_refl _, first.trans (by decide)⟩
    · exact ⟨38, (by decide : 38 ≤ 42), (List.mem_singleton.mp second).trans (by decide)⟩
  exact ⟨List.nodup_nil, List.nodup_nil, fun entry member _ => given.reports entry member⟩

end SelfService
