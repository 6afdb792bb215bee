/-
State changes whose verbs are not listed.

An alert is acknowledged, and tickets are triaged, by calls whose names begin with no
verb of the registry.  It takes them for reads: it may answer them from its cache,
and has nothing deleted when they are done.
-/

import SelfService.Port.ReadAfterWrite

namespace SelfService

open Data EventLoop PortRegistry

def optionalText (text : Option String) : JsValue := text.elim .undefined .str

/-! ### The services pass their calls through -/

namespace NotificationService

/-- By `AlertIdParamSchema`, of letters, digits, hyphens and underscores. -/
def validAlertId (alertId : String) : Bool :=
  1 ≤ alertId.length &&
    alertId.toList.all fun symbol => symbol.isAlphanum || symbol = '-' || symbol = '_'

def getActiveAlerts (context : Option RequestContext) (customerId : String) : Invocation where
  context := context
  portName := "proactive-notification"
  method := "get-active-alerts"
  params := .obj [("customerId", .str customerId)]
  idempotencyKey := none

/-- The text of a rejection is the schema's. -/
def acknowledgeAlert (rejection : JsValue → String) (context : Option RequestContext)
    (alertId customerId : String) : Except Exn Invocation :=
  if validAlertId alertId then
    .ok {
      context := context
      portName := "proactive-notification"
      method := "acknowledge-alert"
      params := .obj [("alertId", .str alertId), ("customerId", .str customerId),
        ("useCache", .bool false)]
      idempotencyKey := none }
  else .error (.validation (rejection (.obj [("alertId", .str alertId)])))

end NotificationService

namespace ReportService

structure IncidentFilters where
  status : Option String
  area : Option String
  type : Option String
  severity : Option String

def listIncidents (context : Option RequestContext) (filters : Option IncidentFilters) :
    Invocation where
  context := context
  portName := "incident"
  method := "get-incidents"
  params := .obj [
    ("status", optionalText (filters.bind IncidentFilters.status)),
    ("area", optionalText (filters.bind IncidentFilters.area)),
    ("type", optionalText (filters.bind IncidentFilters.type)),
    ("severity", optionalText (filters.bind IncidentFilters.severity))]
  idempotencyKey := none

/-- What `GisTriageRequestSchema` lets through. -/
structure GisTriageRequest where
  ticketIds : List String
  area : Option String

def textOfTicket : JsValue → Option String
  | .str text => some text
  | _ => none

def GisTriageRequest.parse (body : JsValue) : Option GisTriageRequest := do
  let ticketIds ←
    match body.field "ticketIds" with
    | .arr items => items.mapM textOfTicket
    | _ => none
  match body.field "area" with
  | .undefined => some ⟨ticketIds, none⟩
  | .str area => some ⟨ticketIds, some area⟩
  | _ => none

def gisTriage (rejection : JsValue → String) (context : Option RequestContext)
    (body : JsValue) : Except Exn Invocation :=
  match GisTriageRequest.parse body with
  | some request =>
      .ok {
        context := context
        portName := "incident"
        method := "gis-triage"
        params := .obj [("ticketIds", .arr (request.ticketIds.map .str)),
          ("area", optionalText request.area), ("useCache", .bool false)]
        idempotencyKey := none }
  | none => .error (.validation (rejection body))

end ReportService

/-! ### Changes and the reads that show them -/

/-- A call that changes the state downstream, and a call that reads the changed state. -/
inductive ShownBy : Invocation → Invocation → Prop
  | alerts {rejection : JsValue → String} {context readContext : Option RequestContext}
      {alertId customerId reader : String} {change : Invocation}
      (made : NotificationService.acknowledgeAlert rejection context alertId customerId =
        .ok change) :
      ShownBy change (NotificationService.getActiveAlerts readContext reader)
  | incidents {rejection : JsValue → String} {context readContext : Option RequestContext}
      {body : JsValue} {filters : Option ReportService.IncidentFilters} {change : Invocation}
      (made : ReportService.gisTriage rejection context body = .ok change) :
      ShownBy change (ReportService.listIncidents readContext filters)

def StateChange (change : Invocation) : Prop := ∃ read, ShownBy change read

theorem StateChange.method_or {change : Invocation} (changes : StateChange change) :
    change.idempotencyKey = none ∧
      (change.method = "acknowledge-alert" ∨ change.method = "gis-triage") := by
  obtain ⟨read, shown⟩ := changes
  cases shown with
  | alerts made =>
      unfold NotificationService.acknowledgeAlert at made
      split at made
      · cases made
        exact ⟨rfl, Or.inl rfl⟩
      · cases made
  | incidents made =>
      unfold ReportService.gisTriage at made
      split at made
      · cases made
        exact ⟨rfl, Or.inr rfl⟩
      · cases made

/-- The registry takes such a change for a read. -/
theorem StateChange.unlisted {change : Invocation} (changes : StateChange change) :
    isMutationMethod change.method = false := by
  rcases changes.method_or.2 with same | same <;> rw [same] <;> decide +kernel

/-- A change that is answered, and not degraded, was answered by an adapter it called. -/
def ChangesReachDownstream (trace : RegistryTrace) : Prop :=
  ∀ before tid time change reply after,
    trace = before ++ ⟨tid, time, .finished (.inl (.execute change)) (.ok (.port reply))⟩ :: after →
    StateChange change → reply.degraded = false →
      ∃ adapter, Saw before tid (supplied adapter change reply.data)

/-- With the last entry of `first` the change takes effect, and it ends in `rest`. -/
def ChangeEnded (change : Invocation) (first rest : RegistryTrace) : Prop :=
  ∃ earlier writer time target context method params data result,
    first = earlier ++ [⟨writer, time,
      .answered (.inl (.adapter target context method params)) (.ok data)⟩] ∧
    Saw earlier writer (.started (.inl (.execute change)) : PortEvent registryOnly) ∧
    Saw rest writer (.finished (.inl (.execute change)) result : PortEvent registryOnly)

/-- A read that began after a change had ended is answered with what was produced after the
change took effect, unless the answer is degraded. -/
def ReadsShowChanges (wiring : Wiring) (trace : RegistryTrace) : Prop :=
  ∀ first rest reader began read later ended reply after change,
    trace = first ++ rest ++ ⟨reader, began, .started (.inl (.execute read))⟩ :: later ++
      ⟨reader, ended, .finished (.inl (.execute read)) (.ok (.port reply))⟩ :: after →
    ChangeEnded change first rest → ShownBy change read → reply.degraded = false →
      ProducedIn wiring reply.data
        (rest ++ ⟨reader, began, .started (.inl (.execute read))⟩ :: later)

/-- No change finds anything in the cache. -/
def ChangesMiss (trace : RegistryTrace) : Prop :=
  ∀ before tid time key cached after change,
    trace = before ++
      ⟨tid, time, .answered (.inl (.cache (.get key))) (Reply.ok cached)⟩ :: after →
    Saw trace tid (.started (.inl (.execute change)) : PortEvent registryOnly) →
      StateChange change → cached.isNullish = true

/-- Where such a read hits the cache, every copy under the key that was fetched before the change
took effect has been deleted or overwritten. -/
def StaleCopiesGone (wiring : Wiring) (trace : RegistryTrace) : Prop :=
  ∀ first rest reader began read later time key cached after change,
    trace = first ++ rest ++ ⟨reader, began, .started (.inl (.execute read))⟩ :: later ++
      ⟨reader, time, .answered (.inl (.cache (.get key))) (Reply.ok cached)⟩ :: after →
    ChangeEnded change first rest → ShownBy change read → cached.isNullish = false →
      CopiesGone wiring first
        (first ++ rest ++ ⟨reader, began, .started (.inl (.execute read))⟩ :: later) key

section Runs

variable {wiring : Wiring} {world : World registryOnly}
  {p : Pool (portSignature registryOnly) Resolution}

/-- A change that misses its cache is answered by an adapter it called. -/
theorem reach_downstream (reached : Reachable wiring.registry world p)
    (misses : ChangesMiss p.snapshot.trace) : ChangesReachDownstream p.snapshot.trace := by
  intro before tid time change reply after split changes healthy
  cases healthy_origin reached split healthy with
  | read cacheable cached present same found =>
      obtain ⟨moment, member⟩ := saw_of_fetched found
      obtain ⟨early, late, rfl⟩ := List.append_of_mem member
      obtain ⟨begun, began⟩ := reached.finished_began split
      have started : Saw p.snapshot.trace tid
          (.started (.inl (.execute change)) : PortEvent registryOnly) :=
        ⟨begun, split ▸ List.mem_append_left _ began⟩
      rw [List.append_assoc, List.cons_append] at split
      have missed := misses early tid moment _ cached _ change split started changes
      rw [present] at missed
      cases missed
  | record rawKey keyed present found replayed =>
      rw [changes.method_or.1] at keyed
      cases keyed
  | adapter kind found live => exact ⟨kind, saw_of_fetched found⟩

/-- While no change finds anything in the cache, and what was fetched before one is gone in time,
changes reach the downstream and the reads show them. -/
theorem changes_reach_downstream (wiring : Wiring) (world : World registryOnly)
    (empty : world.cache = .empty) {p : Pool (portSignature registryOnly) Resolution}
    (reached : Reachable wiring.registry world p) (misses : ChangesMiss p.snapshot.trace)
    (gone : StaleCopiesGone wiring p.snapshot.trace) :
    ChangesReachDownstream p.snapshot.trace ∧ ReadsShowChanges wiring p.snapshot.trace := by
  refine ⟨reach_downstream reached misses, ?_⟩
  intro first rest reader began read later ended reply after change split written shown healthy
  apply produced_since empty reached split healthy
  intro early onwards time key cached whole present
  exact gone first rest reader began read early time key cached onwards change whole written shown
    present

end Runs

/-! ### An alert that is acknowledged again -/

/-- The port has no entry of its own in the YAML file. -/
def alertWorld : World registryOnly :=
  register "proactive-notification" (bareWorld 1700000000000 .empty apiEndpoints ())

def acknowledging : Invocation where
  context := none
  portName := "proactive-notification"
  method := "acknowledge-alert"
  params := .obj [("alertId", .str "ALERT-001"), ("customerId", .str "KH-1"),
    ("useCache", .bool false)]
  idempotencyKey := none

theorem acknowledging_changes : StateChange acknowledging := by
  have made : NotificationService.acknowledgeAlert (fun _ => "") none "ALERT-001" "KH-1" =
      .ok acknowledging := by rfl
  exact ⟨NotificationService.getActiveAlerts none "KH-1", .alerts made⟩

def alertKey : String :=
  buildCacheKey profileWiring.remote acknowledging.portName acknowledging.method
    acknowledging.params

def acknowledged : JsValue := .obj [("alertId", .str "ALERT-001")]

def cachedAcknowledgement : JsValue :=
  .obj [("data", acknowledged), ("cachedAt", .str "2023-11-14T22:13:20.000Z")]

/-- The alert is acknowledged downstream, and the answer is cached. -/
def acknowledgedOnce : List RegistryAction :=
  [.call (.inl (.execute acknowledging)), .resume 0,
    .answer 0 (.inl (.cache (.get alertKey))) (Reply.ok .null), .resume 0,
    .answer 0 (.inl (.adapter ⟨"proactive-notification", .live⟩ none acknowledging.method
      acknowledging.params)) (.ok acknowledged), .resume 0,
    .answer 0 (.inl (.cache (.set alertKey cachedAcknowledgement (some 900)))) (Reply.ok ()),
    .resume 0]

/-- Later the same call is answered from the cache. -/
def acknowledgedAgain : List RegistryAction :=
  acknowledgedOnce ++ [.external (.tick 600000), .call (.inl (.execute acknowledging)), .resume 1,
    .answer 1 (.inl (.cache (.get alertKey))) (Reply.ok cachedAcknowledgement), .resume 1]

theorem ChangesMiss.of_misses {trace : RegistryTrace} (misses : MissesOnly trace = true) :
    ChangesMiss trace := by
  intro before tid time key cached after change split _ _
  have member : ⟨tid, time, .answered (.inl (.cache (.get key))) (Reply.ok cached)⟩ ∈ trace := by
    rw [split]
    exact List.mem_append_right _ List.mem_cons_self
  exact List.all_eq_true.mp misses _ member

theorem StaleCopiesGone.of_misses {wiring : Wiring} {trace : RegistryTrace}
    (misses : MissesOnly trace = true) : StaleCopiesGone wiring trace := by
  intro first rest reader began read later time key cached after change split _ _ present
  have member : ⟨reader, time, .answered (.inl (.cache (.get key))) (Reply.ok cached)⟩ ∈ trace := by
    rw [split]
    exact List.mem_append_right _ List.mem_cons_self
  have missed : cached.isNullish = true := List.all_eq_true.mp misses _ member
  cases present.symm.trans missed

/-- A call that is answered without a call of its own to an adapter. -/
theorem not_changesReachDownstream {entries : RegistryTrace} {change : Invocation}
    (answer tid : Nat) (changes : StateChange change)
    (answers : entries[answer]?.any (answersRead tid change) = true)
    (unasked : Unsupplied (ownEntries tid (entries.take answer)) = true) :
    ¬ ChangesReachDownstream entries := by
  intro reach
  obtain ⟨⟨reader, ended, event⟩, isAnswer, whole⟩ := split_at_index answers
  unfold answersRead at isAnswer
  split at isAnswer
  · rename_i other reply same
    obtain ⟨sameTid, rfl, healthy⟩ := of_decide_eq_true isAnswer
    dsimp only at same sameTid
    subst same sameTid
    obtain ⟨adapter, time, asked⟩ := reach _ _ _ _ _ _ whole changes healthy
    cases List.all_eq_true.mp unasked _ (mem_ownEntries.mpr ⟨asked, rfl⟩)
  · cases isAnswer

/-- The second acknowledgement reaches no adapter. -/
theorem acknowledgement_stays_here :
    ∃ p, Reachable profileWiring.registry alertWorld p ∧
      ¬ ChangesReachDownstream p.snapshot.trace :=
  ⟨_, reachable_run profileWiring.registry alertWorld acknowledgedAgain (by decide +kernel),
    not_changesReachDownstream 11 1 acknowledging_changes (by decide +kernel)
      (by decide +kernel)⟩

theorem changes_reach_downstream_once :
    ∃ p, Reachable profileWiring.registry alertWorld p ∧ p.snapshot.trace.length = 8 ∧
      ChangesReachDownstream p.snapshot.trace ∧
        ReadsShowChanges profileWiring p.snapshot.trace :=
  ⟨_, reachable_run profileWiring.registry alertWorld acknowledgedOnce (by decide +kernel),
    by decide +kernel,
    changes_reach_downstream profileWiring alertWorld rfl
      (reachable_run profileWiring.registry alertWorld acknowledgedOnce (by decide +kernel))
      (ChangesMiss.of_misses (by decide +kernel)) (StaleCopiesGone.of_misses (by decide +kernel))⟩

end SelfService
