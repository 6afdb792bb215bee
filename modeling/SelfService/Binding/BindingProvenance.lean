/-
Where a verified binding comes from.

Every verified row was written by a call that had earned it: a bind whose
session was offered the reference by a bindInit of the same user and whose
secret the customer service verified, or a bindRegister that created the
customer.
-/

import SelfService.Binding.BindingTables
import SelfService.Binding.MockCustomerServiceClient

namespace SelfService

open Data EventLoop BindingService BindingRateLimiter

variable {client : CustomerServiceClient}

/-! ### What a call has earned -/

/-- The references a cached value lets a bind choose from. -/
def allowed (value : JsValue) : List JsValue :=
  match allowedRefs value with
  | .ok refs => refs
  | .error _ => []

/-- A bindInit of this session got the result from the customer service, for the phone of
the user. -/
def Resolved (past : BindingTrace client) (tid : Nat) (userId sessionId : String)
    (result : ResolveResult) : Prop :=
  ∃ deviceInfo ip phone,
    Saw past tid (.started (.inr (.bindInit userId sessionId deviceInfo ip))) ∧
    Saw past tid (.answered (.inr (.selectPhone userId)) (Reply.ok (some phone))) ∧
    Saw past tid (.answered (.inr (.client (.resolve phone))) (.ok result))

/-- The call may write these values for the user and the reference. -/
inductive Earned (aes : AesGcm) (past : BindingTrace client) (tid : Nat)
    (userId customerRef : String) (values : VerifiedValues) : Prop
  | challenge (early late : BindingTrace client) (time : Nat) (sessionId : String)
      (body : BindBody) (deviceInfo ip : Option String) (draws : Draws) (init : JsValue)
      (profile : CustomerProfileResponse)
      (split : past =
        early ++ ⟨tid, time, .answered (.inl (.cache (.get (initKey sessionId)))) (.ok init)⟩ ::
          late)
      (began : Saw early tid
        (.started (.inr (.bind userId sessionId body deviceInfo ip draws))))
      (chosen : body.customerRef = customerRef) (offered : .str customerRef ∈ allowed init)
      (verified : Saw late tid (.answered
        (.inr (.client (.verify ⟨customerRef, body.secretType, body.secretValue⟩))) (.ok ⟨true⟩)))
      (profiled : Saw late tid
        (.answered (.inr (.client (.profile customerRef))) (.ok profile)))
      (sealed_ : values.encCustomerId =
        PiiEncryptionService.encryptIfNeeded aes draws.iv (some profile.customerId))
  | registration (sessionId phone : String) (request : CreateCustomerRequest)
      (deviceInfo ip : Option String) (draws : Draws) (created : CreateCustomerResult)
      (began : Saw past tid
        (.started (.inr (.bindRegister userId sessionId request deviceInfo ip draws))))
      (made : Saw past tid
        (.answered (.inr (.client (.create phone request))) (.ok created)))
      (chosen : created.customerRef = customerRef)
      (sealed_ : values.encCustomerId =
        PiiEncryptionService.encryptIfNeeded aes draws.iv (some created.customerId))

/-- A row is written only when it was earned, and a value that offers references is cached
only by a bindInit that resolved them. -/
def EarnLaw (aes : AesGcm) (backend : Backend) (past : BindingTrace client)
    (entry : BindingTraceEntry client) : Prop :=
  match entry.event with
  | .answered (.inr (.updateBinding id values)) _ => ∃ userId customerRef,
      Saw past entry.tid
        (.answered (.inr (.selectBinding userId customerRef)) (Reply.ok (some id))) ∧
      Earned aes past entry.tid userId customerRef values
  | .answered (.inr (.insertBinding _ userId customerRef values)) _ =>
      Earned aes past entry.tid userId customerRef values
  | .answered (.inl (.cache (.set key value ttl))) _ => allowed (backend.stored value) ≠ [] →
      ∃ userId sessionId result, key = initKey sessionId ∧ value = result.toJs ∧
        ttl = some INIT_TTL_SEC ∧ Resolved past entry.tid userId sessionId result
  | _ => True

/-- Requests about which `EarnLaw` has nothing to say. -/
inductive Free : PortRequest ⊕ BindingRequest → Prop
  | limiter (request : PortRequest ⊕ BindingRequest) (issued : LimiterIssues request) :
      Free request
  | reader (request : PortRequest ⊕ BindingRequest) (issued : ReaderIssues request) :
      Free request
  | consume (sessionId : String) : Free (.inl (.cache (.delete (initKey sessionId))))
  | audit (entry : BindingAuditEntry) : Free (.inr (.insertAudit entry))
  | phone (userId : String) : Free (.inr (.selectPhone userId))
  | client (request : ClientRequest) : Free (.inr (.client request))

theorem lookup_roundTripFields {name : String} (fields : List (String × JsValue))
    (absent : fields.lookup name = none) :
    (JsValue.roundTripFields fields).lookup name = none := by
  induction fields with
  | nil => rfl
  | cons field rest ih =>
      obtain ⟨other, value⟩ := field
      rw [List.lookup_cons] at absent
      split at absent
      · cases absent
      · rename_i different
        have later := ih absent
        cases value with
        | undefined => exact later
        | _ =>
            rw [JsValue.roundTripFields, List.lookup_cons, different]
            · exact later
            · simp

/-- A value without a status offers nothing, however it is stored. -/
theorem allowed_of_no_status (backend : Backend) {fields : List (String × JsValue)}
    (absent : fields.lookup "status" = none) :
    allowed (backend.stored (.obj fields)) = [] := by
  have none_ (other : List (String × JsValue)) (missing : other.lookup "status" = none) :
      allowed (.obj other) = [] := by
    simp [allowed, allowedRefs, missing]
  unfold Backend.stored
  cases backend.kind with
  | memory => exact none_ fields absent
  | redis =>
      simp only [JsValue.roundTrip]
      exact none_ _ (lookup_roundTripFields fields absent)

theorem allowed_num (backend : Backend) (value : Rat) :
    allowed (backend.stored (.num value)) = [] := by
  unfold Backend.stored
  cases backend.kind with
  | memory => rfl
  | redis => rfl

theorem allowed_bumped (backend : Backend) (now windowSec : Nat) (entry : JsValue) :
    allowed (backend.stored (bumped now windowSec entry)) = [] := by
  unfold bumped
  split
  · exact allowed_of_no_status backend rfl
  · exact allowed_of_no_status backend rfl

theorem earnLaw_of_free {aes : AesGcm} {backend : Backend} {past : BindingTrace client}
    {tid time : Nat} {request : PortRequest ⊕ BindingRequest}
    {answer : (portSignature (binding client)).Ans request} (free : Free request) :
    EarnLaw aes backend past ⟨tid, time, .answered request answer⟩ := by
  cases free with
  | limiter _ issued =>
      cases issued with
      | count ceiling kind now entry =>
          exact fun offers => absurd (allowed_bumped backend now ceiling.windowSec entry) offers
      | lock ceiling kind => exact fun offers => absurd (allowed_num backend 1) offers
      | _ => exact trivial
  | reader _ issued =>
      cases issued with
      | entry userId customerRef encCustomerId verifiedAt deviceInfo =>
          exact fun offers => absurd (allowed_of_no_status backend rfl) offers
      | _ => exact trivial
  | client request => exact trivial
  | _ => exact trivial

theorem Earned.mono {aes : AesGcm} {past all : BindingTrace client} {tid : Nat}
    {userId customerRef : String} {values : VerifiedValues} (grown : past <+: all)
    (earned : Earned aes past tid userId customerRef values) :
    Earned aes all tid userId customerRef values := by
  obtain ⟨more, rfl⟩ := grown
  have later {part : BindingTrace client} {event : BindingEvent client}
      (saw : Saw part tid event) : Saw (part ++ more) tid event := by
    obtain ⟨time, member⟩ := saw
    exact ⟨time, List.mem_append_left more member⟩
  cases earned with
  | challenge early late time sessionId body deviceInfo ip draws init profile split began chosen
      offered verified profiled sealed_ =>
      rw [split, List.append_assoc, List.cons_append]
      exact .challenge early (late ++ more) time sessionId body deviceInfo ip draws init profile rfl
        began chosen offered (later verified) (later profiled) sealed_
  | registration sessionId phone request deviceInfo ip draws created began made chosen sealed_ =>
      exact .registration sessionId phone request deviceInfo ip draws created (later began)
        (later made) chosen sealed_

section Walk

variable {aes : AesGcm} {wiring : Wiring} {environment : CacheEnvironment} {tid : Nat}
  {α β : Type} {state : BindingWorld client} {past : BindingTrace client}

/-- From here on the task writes only what is earned. -/
abbrev Earns (aes : AesGcm) (wiring : Wiring) (environment : CacheEnvironment) (tid : Nat)
    (task : BindingTask client α) (state : BindingWorld client) (past : BindingTrace client) :
    Prop :=
  Obeys (bindingSystem client aes wiring environment) tid (EarnLaw aes wiring.backend)
    (fun _ _ _ => True) task state past

theorem earns_of_free {task : BindingTask client α} (free : task.Asks Free fun _ => True) :
    Earns aes wiring environment tid task state past :=
  (free.obeys (fun _ _ _ _ => earnLaw_of_free) fun _ _ _ _ => trivial).mono
    fun _ _ _ _ => trivial

theorem earns_free_bind {task : BindingTask client α} {rest : α → BindingTask client β}
    (free : task.Asks Free fun _ => True)
    (next : ∀ value last all, past <+: all →
      Earns aes wiring environment tid (rest value) last all) :
    Earns aes wiring environment tid (task >>= rest) state past :=
  free.obeys_bind (fun _ _ _ _ => earnLaw_of_free) (fun _ _ _ _ => trivial)
    (fun _ _ _ _ => trivial) fun value last all adds => next value last all adds.grown

theorem Limits.free {task : BindingTask client α} (limits : Limits task) :
    task.Asks Free fun _ => True :=
  limits.weaken Free.limiter

theorem free_writeAudit (entry : BindingAuditEntry) :
    (writeAudit entry : BindingTask client Unit).Asks Free fun _ => True := by
  apply Task.Asks.bind
  · exact Task.Asks.attempt ⟨.audit _, fun reply => asks_ofReply (reply : Reply Unit)⟩
  · exact fun _ => trivial

theorem Reads.free {task : BindingTask client α} (reads : Reads task) :
    task.Asks Free fun _ => True :=
  reads.weaken Free.reader

theorem earns_upsertVerified (state : BindingWorld client) {userId customerRef rowId : String} {values : VerifiedValues}
    {rest : Unit → BindingTask client β}
    (earned : Earned aes past tid userId customerRef values)
    (next : ∀ last all, Earns aes wiring environment tid (rest ()) last all) :
    Earns aes wiring environment tid (upsertVerified userId customerRef values rowId >>= rest)
      state past := by
  intro answer before after resumed performed
  refine ⟨trivial, ?_⟩
  cases answer with
  | failed applied reason => exact trivial
  | ok found =>
      cases found with
      | none =>
          intro reply beforeWrite afterWrite later written
          refine ⟨earned.mono (List.prefix_append _ _), ?_⟩
          cases reply with
          | ok done => exact next _ _
          | failed applied reason => exact trivial
      | some id =>
          intro reply beforeWrite afterWrite later written
          refine ⟨⟨userId, customerRef, ⟨_, List.mem_append_right _ (List.mem_singleton.mpr rfl)⟩,
            earned.mono (List.prefix_append _ _)⟩, ?_⟩
          cases reply with
          | ok done => exact next _ _
          | failed applied reason => exact trivial

/-- The challenge was passed: what is left writes the row that was earned. -/
theorem earns_complete {userId sessionId : String} {body : BindBody}
    {deviceInfo ip : Option String} {draws : Draws} {early late : BindingTrace client}
    {time : Nat} {init : JsValue}
    (began : Saw early tid (.started (.inr (.bind userId sessionId body deviceInfo ip draws))))
    (offered : .str body.customerRef ∈ allowed init)
    (verified : Saw late tid (.answered (.inr (.client (.verify
      ⟨body.customerRef, body.secretType, body.secretValue⟩))) (.ok ⟨true⟩))) :
    Earns aes wiring environment tid
      (complete aes userId sessionId body deviceInfo ip draws) state
      (early ++ ⟨tid, time, .answered (.inl (.cache (.get (initKey sessionId)))) (.ok init)⟩ ::
        late) := by
  intro outcome before after resumed performed
  refine ⟨trivial, ?_⟩
  cases outcome with
  | error error => exact trivial
  | ok profile =>
      rw [List.append_assoc, List.cons_append]
      refine earns_upsertVerified resumed ?_ ?_
      · refine .challenge early _ time sessionId body deviceInfo ip draws init profile rfl began rfl
          offered ?_ ?_ rfl
        · obtain ⟨moment, member⟩ := verified
          exact ⟨moment, List.mem_append_left _ member⟩
        · exact ⟨_, List.mem_append_right _ (List.mem_singleton.mpr rfl)⟩
      · intro last all
        apply earns_free_bind (limits_clearFailures _ _).free
        intro _ last all _
        apply earns_free_bind (asks_delete (.consume sessionId))
        intro _ last all _
        apply earns_free_bind (free_writeAudit _)
        intro _ last all _
        apply earns_free_bind (reads_warm _ _ _).free
        exact fun _ _ _ _ => trivial

theorem earns_challenge {userId sessionId : String} {body : BindBody}
    {deviceInfo ip : Option String} {draws : Draws} {early late : BindingTrace client}
    {time : Nat} {init : JsValue}
    (began : Saw early tid (.started (.inr (.bind userId sessionId body deviceInfo ip draws))))
    (offered : .str body.customerRef ∈ allowed init) :
    Earns aes wiring environment tid
      (challenge aes userId sessionId body deviceInfo ip draws) state
      (early ++ ⟨tid, time, .answered (.inl (.cache (.get (initKey sessionId)))) (.ok init)⟩ ::
        late) := by
  apply earns_free_bind (limits_checkLocked _ _).free
  rintro lock last all ⟨more, rfl⟩
  simp only
  split
  · apply earns_free_bind (free_writeAudit _)
    exact fun _ _ _ _ => trivial
  · intro outcome before after resumed performed
    refine ⟨trivial, ?_⟩
    cases outcome with
    | error error => exact trivial
    | ok verdict =>
        rw [List.append_assoc, List.append_assoc, List.cons_append]
        obtain ⟨verified⟩ := verdict
        cases verified with
        | true =>
            apply earns_complete began offered
            exact ⟨_, List.mem_append_right _ (List.mem_append_right _ (List.mem_singleton.mpr rfl))⟩
        | false =>
            apply earns_free_bind (limits_recordFailure _ _).free
            intro fail last all _
            simp only
            split
            · exact earns_free_bind (free_writeAudit _) fun _ _ _ _ => trivial
            · exact earns_free_bind (free_writeAudit _) fun _ _ _ _ => trivial

theorem earns_bind {userId sessionId : String} {body : BindBody} {deviceInfo ip : Option String}
    {draws : Draws}
    (began : Saw past tid (.started (.inr (.bind userId sessionId body deviceInfo ip draws)))) :
    Earns aes wiring environment tid (bind aes userId sessionId body deviceInfo ip draws) state
      past := by
  apply obeys_get
  · exact fun _ _ => trivial
  · intro reply time last
    cases reply with
    | failed applied reason => exact earns_free_bind (free_writeAudit _) fun _ _ _ _ => trivial
    | ok init =>
        change Earns aes wiring environment tid (if init.truthy then _ else _) _ _
        split
        · split
          · exact trivial
          · rename_i refs read
            split
            · rename_i chosen
              apply earns_challenge began
              unfold allowed
              rw [show allowedRefs init = .ok refs from read]
              exact chosen
            · exact earns_free_bind (free_writeAudit _) fun _ _ _ _ => trivial
        · exact earns_free_bind (free_writeAudit _) fun _ _ _ _ => trivial

theorem free_getSessionPhone (userId : String) :
    (getSessionPhone userId : BindingTask client (Option String)).Asks Free fun _ => True := by
  refine ⟨.phone userId, ?_⟩
  intro answer
  cases answer with
  | ok phone => exact trivial
  | failed applied reason => exact trivial

theorem free_resolve (phone : String) :
    (CustomerServiceClient.resolve phone : BindingTask client ResolveResult).Asks Free
      fun _ => True := by
  refine ⟨.client _, ?_⟩
  intro outcome
  cases outcome with
  | ok value => exact trivial
  | error error => exact trivial

theorem earns_bindRegister {userId sessionId : String} {request : CreateCustomerRequest}
    {deviceInfo ip : Option String} {draws : Draws}
    (began : Saw past tid
      (.started (.inr (.bindRegister userId sessionId request deviceInfo ip draws)))) :
    Earns aes wiring environment tid
      (bindRegister aes userId sessionId request deviceInfo ip draws) state past := by
  apply earns_free_bind (free_getSessionPhone userId)
  intro phone last all grown
  cases phone with
  | none => exact trivial
  | some phone =>
      apply earns_free_bind (free_resolve phone)
      intro resolved last all' longer
      simp only
      split
      · intro outcome before after resumed performed
        refine ⟨trivial, ?_⟩
        cases outcome with
        | error error =>
            change Earns aes wiring environment tid 
              (EventLoop.Task.bind (.done (Except.error error)) _) _ _
            rw [Task.done_bind]
            split
            · rename_i same
              cases same
            · exact earns_free_bind (free_writeAudit _) fun _ _ _ _ => trivial
            · exact trivial
        | ok created =>
            refine earns_upsertVerified resumed ?_ ?_
            · refine .registration sessionId phone request deviceInfo ip draws created ?_
                ⟨_, List.mem_append_right _ (List.mem_singleton.mpr rfl)⟩ rfl rfl
              obtain ⟨moment, member⟩ := began
              exact ⟨moment, List.mem_append_left _ (longer.subset (grown.subset member))⟩
            · intro last all
              apply earns_free_bind (asks_delete (.consume sessionId))
              intro _ last all _
              apply earns_free_bind (free_writeAudit _)
              intro _ last all _
              apply earns_free_bind (reads_warm _ _ _).free
              exact fun _ _ _ _ => trivial
      · exact earns_free_bind (free_writeAudit _) fun _ _ _ _ => trivial

theorem earns_bindInit {userId sessionId : String} {deviceInfo ip : Option String}
    (began : Saw past tid (.started (.inr (.bindInit userId sessionId deviceInfo ip)))) :
    Earns aes wiring environment tid (bindInit userId sessionId deviceInfo ip) state past := by
  intro reply before after resumed performed
  refine ⟨trivial, ?_⟩
  cases reply with
  | failed applied reason => exact trivial
  | ok phone =>
      change Earns aes wiring environment tid
        (EventLoop.Task.bind (.done (phone.filter fun text => text ≠ "")) _) _ _
      rw [Task.done_bind]
      cases found : phone.filter fun text => text ≠ "" with
      | none => exact trivial
      | some text =>
          obtain ⟨rfl, present⟩ := Option.filter_eq_some_iff.mp found
          intro outcome beforeResolve afterResolve later resolved
          refine ⟨trivial, ?_⟩
          cases outcome with
          | error error => exact trivial
          | ok result =>
              apply earns_free_bind (free_writeAudit _)
              rintro _ last all ⟨more, rfl⟩
              apply obeys_set
              · intro answer time offers
                refine ⟨userId, sessionId, result, rfl, rfl, rfl, deviceInfo, ip, text, ?_, ?_, ?_⟩
                · obtain ⟨moment, member⟩ := began
                  exact ⟨moment, by simp [member]⟩
                · exact ⟨(bindingSystem client aes wiring environment).clock after, by simp⟩
                · exact ⟨(bindingSystem client aes wiring environment).clock afterResolve, by simp⟩
              · exact fun _ _ => trivial
              · exact fun _ _ _ _ => trivial

theorem earns_converted {task : BindingTask client α} {convert : α → β}
    (earns : Earns aes wiring environment tid task state past) :
    Earns aes wiring environment tid (task >>= fun value => .done (convert value)) state past := by
  rw [Earns, obeys_bind]
  apply earns.mono
  intro result last all _
  cases result with
  | ok value => exact trivial
  | error error => exact trivial

theorem earns_body {time : Nat} (call : BindingCall) :
    Earns aes wiring environment tid (bindingBody aes call) state
      ([⟨tid, time, .started (.inr call)⟩] : BindingTrace client) := by
  have began : Saw ([⟨tid, time, .started (.inr call)⟩] : BindingTrace client) tid
      (.started (.inr call)) := ⟨time, List.mem_singleton.mpr rfl⟩
  cases call with
  | bindInit userId sessionId deviceInfo ip => exact earns_converted (earns_bindInit began)
  | bind userId sessionId body deviceInfo ip draws => exact earns_converted (earns_bind began)
  | bindRegister userId sessionId profile deviceInfo ip draws =>
      exact earns_converted (earns_bindRegister began)
  | guard userId skip => exact earns_converted (earns_of_free (reads_canActivate _ _).free)
  | getMe userId => exact earns_converted (earns_of_free (reads_getMe _).free)

/-- Every call of the module writes only what it has earned. -/
theorem earns_lawful (call : BindingCall) :
    Lawful (bindingSystem client aes wiring environment) (EarnLaw aes wiring.backend) tid
      (.inr call) where
  starts _ := trivial
  obeys _ _ := (earns_body call).mono fun _ _ _ _ _ => trivial

end Walk

/-! ### Provenance -/

/-- The session and the user of a call. -/
def sessionIn (entry : BindingTraceEntry client) : Option (String × String) :=
  match entry.event with
  | .started (.inr (.bindInit userId sessionId _ _)) => some (sessionId, userId)
  | .started (.inr (.bind userId sessionId _ _ _ _)) => some (sessionId, userId)
  | .started (.inr (.bindRegister userId sessionId _ _ _ _)) => some (sessionId, userId)
  | _ => none

/-- Every session belongs to one user. -/
def sessionsApart (trace : BindingTrace client) : Bool :=
  trace.all fun first => trace.all fun second =>
    match sessionIn first, sessionIn second with
    | some one, some other => one.1 ≠ other.1 || one.2 = other.2
    | _, _ => true

/-- Every customer the service speaks of has an id. -/
def customersNamed (trace : BindingTrace client) : Bool :=
  trace.all fun entry =>
    match entry.event with
    | .answered (.inr (.client (.profile _))) (.ok profile) => profile.customerId ≠ ""
    | .answered (.inr (.client (.create _ _))) (.ok created) => created.customerId ≠ ""
    | _ => true

/-- Nothing is bound yet, and no session holds an init result. -/
structure Unbound (wiring : Wiring) (world : BindingWorld client) : Prop where
  rows : ∀ id row, world.service.bindings.get? id = some row → row.status ≠ .verified
  inits : ∀ sessionId,
    world.cache.get? (getFullKey wiring.backend.options (initKey sessionId)) = none

/-- The value is what a bindInit of the user stored under the session, no longer than five
minutes before `now`: what the customer service resolved for the phone of the user, with
the reference in it. -/
def Offered (trace : BindingTrace client) (userId sessionId customerRef : String)
    (init : JsValue) (now : Nat) : Prop :=
  ∃ tid time result reply, Resolved trace tid userId sessionId result ∧
    init = result.toJs ∧ customerRef ∈ result.refs ∧ Reply.applied reply = true ∧
    now ≤ time + INIT_TTL_SEC * 1000 ∧
    ⟨tid, time, .answered (.inl (.cache
      (.set (initKey sessionId) result.toJs (some INIT_TTL_SEC)))) reply⟩ ∈ trace

/-- How a row came to be verified. -/
inductive Proven (aes : AesGcm) (trace : BindingTrace client) (id : String)
    (row : CustomerBinding) : Prop
  | byChallenge (before middle after : BindingTrace client) (tid time : Nat)
      (write : BindingTraceEntry client) (sessionId : String) (body : BindBody)
      (deviceInfo ip : Option String) (draws : Draws) (init : JsValue)
      (profile : CustomerProfileResponse)
      (split : trace = before ++
        ⟨tid, time, .answered (.inl (.cache (.get (initKey sessionId)))) (.ok init)⟩ ::
          middle ++ write :: after)
      (began : Saw before tid
        (.started (.inr (.bind row.userId sessionId body deviceInfo ip draws))))
      (chosen : body.customerRef = row.customerRef)
      (offered : Offered before row.userId sessionId row.customerRef init time)
      (verified : Saw middle tid (.answered
        (.inr (.client (.verify ⟨row.customerRef, body.secretType, body.secretValue⟩)))
        (.ok ⟨true⟩)))
      (profiled : Saw middle tid
        (.answered (.inr (.client (.profile row.customerRef))) (.ok profile)))
      (wrote : write.tid = tid ∧ Left write id row)
      (decrypts : PiiEncryptionService.decryptIfNeeded aes row.customerId =
        .ok (some profile.customerId))
  | byRegistration (before after : BindingTrace client) (tid : Nat)
      (write : BindingTraceEntry client) (sessionId phone : String)
      (request : CreateCustomerRequest) (deviceInfo ip : Option String) (draws : Draws)
      (created : CreateCustomerResult) (split : trace = before ++ write :: after)
      (began : Saw before tid
        (.started (.inr (.bindRegister row.userId sessionId request deviceInfo ip draws))))
      (made : Saw before tid (.answered (.inr (.client (.create phone request))) (.ok created)))
      (chosen : created.customerRef = row.customerRef)
      (wrote : write.tid = tid ∧ Left write id row)
      (decrypts : PiiEncryptionService.decryptIfNeeded aes row.customerId =
        .ok (some created.customerId))

theorem stored_toJs (backend : Backend) (result : ResolveResult) :
    backend.stored result.toJs = result.toJs := by
  unfold Backend.stored
  cases backend.kind with
  | memory => rfl
  | redis => exact JsValue.roundTrip_of_isJson _ result.isJson_toJs

theorem lookup_optionalField (name other : String) (value : Option JsValue) :
    (optionalField name value).lookup other = if other = name then value else none := by
  cases value with
  | none => simp [optionalField]
  | some present =>
      by_cases same : other = name
      · simp [optionalField, same]
      · simp [optionalField, List.lookup_cons, beq_eq_false_iff_ne.mpr same, same]

theorem candidateRefs_map (candidates : List Candidate) :
    candidateRefs (candidates.map Candidate.toJs) =
      .ok (candidates.map fun candidate => .str candidate.customerRef) := by
  induction candidates with
  | nil => rfl
  | cons candidate rest ih =>
      rw [List.map_cons, candidateRefs, ih]
      rfl

/-- A resolve result offers its own references. -/
theorem allowed_toJs (result : ResolveResult) : allowed result.toJs = result.refs.map .str := by
  obtain ⟨status, customerRef, maskedHint, challenge, candidates, capped⟩ := result
  have refs : allowedRefs (ResolveResult.toJs
      ⟨status, customerRef, maskedHint, challenge, candidates, capped⟩) = .ok
        ((ResolveResult.refs ⟨status, customerRef, maskedHint, challenge, candidates, capped⟩).map
          .str) := by
    unfold allowedRefs ResolveResult.toJs
    simp only [JsValue.field_obj, List.lookup_append, lookup_optionalField]
    cases status with
    | none => rfl
    | one =>
        cases customerRef with
        | none => rfl
        | some ref =>
            by_cases empty : ref = ""
            · subst empty
              rfl
            · have skipped : [("status", JsValue.str "one")].lookup "customerRef" = none := rfl
              simp [ResolveStatus.text, ResolveResult.refs, JsValue.truthy, skipped, empty,
                Option.filter_some]
    | many =>
        cases candidates with
        | none => rfl
        | some candidates =>
            have skipped : [("status", JsValue.str "many")].lookup "candidates" = none := rfl
            simp [ResolveStatus.text, ResolveResult.refs, candidateRefs_map, skipped]
  rw [allowed, refs]

section Proof

variable {aes : AesGcm} {wiring : Wiring} {environment : CacheEnvironment}
  {world : BindingWorld client} {p : BindingPool client}

theorem user_of_session (apart : sessionsApart p.snapshot.trace = true)
    {first second : BindingTraceEntry client} (one : first ∈ p.snapshot.trace)
    (other : second ∈ p.snapshot.trace) {sessionId userId otherId : String}
    (named : sessionIn first = some (sessionId, userId))
    (namedOther : sessionIn second = some (sessionId, otherId)) : userId = otherId := by
  have checked := List.all_eq_true.mp (List.all_eq_true.mp apart first one) second other
  simpa [named, namedOther] using checked

theorem Resolved.of_own {trace : BindingTrace client} {tid : Nat} {userId sessionId : String}
    {result : ResolveResult}
    (resolved : Resolved (ownEntries tid trace) tid userId sessionId result) :
    Resolved trace tid userId sessionId result := by
  obtain ⟨deviceInfo, ip, phone, began, phoned, answered⟩ := resolved
  exact ⟨deviceInfo, ip, phone, saw_of_own began, saw_of_own phoned, saw_of_own answered⟩

theorem Resolved.mono {early late : BindingTrace client} {tid : Nat} {userId sessionId : String}
    {result : ResolveResult} (resolved : Resolved early tid userId sessionId result)
    (grown : early <+: late) : Resolved late tid userId sessionId result := by
  obtain ⟨deviceInfo, ip, phone, ⟨first, began⟩, ⟨second, phoned⟩, ⟨third, answered⟩⟩ := resolved
  exact ⟨deviceInfo, ip, phone, ⟨first, grown.subset began⟩, ⟨second, grown.subset phoned⟩,
    ⟨third, grown.subset answered⟩⟩

theorem initKey_injective {first second : String} (same : initKey first = initKey second) :
    first = second :=
  (String.append_right_inj _).mp same

theorem le_of_fresh_init {backend : Backend} {moment time : Nat} {value : JsValue}
    (fresh : (backend.entryOf moment value (some INIT_TTL_SEC)).expired time = false) :
    time ≤ moment + INIT_TTL_SEC * 1000 := by
  have expires : (backend.entryOf moment value (some INIT_TTL_SEC)).expiry =
      some (moment + INIT_TTL_SEC * 1000) := by
    unfold Backend.entryOf
    cases backend.kind with
    | memory => rfl
    | redis => rfl
  rw [CacheEntry.expired, expires, Option.any_some, decide_eq_false_iff_not] at fresh
  exact Nat.le_of_not_lt fresh

/-- A lookup of an init result reads what a call of the module wrote before. -/
theorem wrote_of_lookup (unbound : Unbound wiring world)
    (reached : Reachable (bindingSystem client aes wiring environment) world p)
    {before after : BindingTrace client} {tid time : Nat} {sessionId : String} {init : JsValue}
    (split : p.snapshot.trace = before ++
      ⟨tid, time, .answered (.inl (.cache (.get (initKey sessionId)))) (.ok init)⟩ :: after)
    (present : init ≠ .null) :
    ∃ (past rest : BindingTrace client) (writer moment : Nat) (value : JsValue)
      (ttl : Option Nat) (reply : Reply Unit), before = past ++
        ⟨writer, moment, .answered (.inl (.cache (.set (initKey sessionId) value ttl))) reply⟩ ::
          rest ∧ reply.applied = true ∧ (wiring.backend.entryOf moment value ttl).value = init ∧
        (wiring.backend.entryOf moment value ttl).expired time = false ∧
        ∃ call, Saw past writer (.started (.inr call)) := by
  have chronicle := binding_chronicle reached
  have past : Clear before := (binding_clear reached).earlier ⟨_, split.symm⟩
  have looked := chronicle.registers.lookups before _ after split (past.unblurred _)
  have recalls : recalled (bindingDeployment client wiring environment) world.cache
      (initKey sessionId) time before = init :=
    (looked.resolve_left present).symm
  obtain ⟨left, there, fresh, same⟩ := held_of_recalled recalls present
  have key : initKey sessionId = "bind:" ++ ("init:" ++ sessionId) := by
    rw [initKey, ← String.append_assoc]
    rfl
  have unheld := unbound.inits sessionId
  rw [key] at there unheld ⊢
  rcases binding_wrote reached split there with
    old | ⟨past, rest, writer, moment, value, ttl, reply, wrote, applied, left_, -, call⟩
  · exact absurd unheld (ne_of_eq_of_ne old (Option.some_ne_none left))
  · rw [left_] at same fresh
    exact ⟨past, rest, writer, moment, value, ttl, reply, wrote, applied, same, fresh, call⟩

/-- What a lookup finds under a session's key was offered to the user of the session. -/
theorem offered_of_lookup (unbound : Unbound wiring world)
    (reached : Reachable (bindingSystem client aes wiring environment) world p)
    (apart : sessionsApart p.snapshot.trace = true) {before after : BindingTrace client}
    {tid time : Nat} {userId sessionId customerRef : String} {body : BindBody}
    {deviceInfo ip : Option String} {draws : Draws} {init : JsValue}
    (split : p.snapshot.trace = before ++
      ⟨tid, time, .answered (.inl (.cache (.get (initKey sessionId)))) (.ok init)⟩ :: after)
    (began : Saw before tid (.started (.inr (.bind userId sessionId body deviceInfo ip draws))))
    (offers : .str customerRef ∈ allowed init) :
    Offered before userId sessionId customerRef init time := by
  have present : init ≠ .null := by
    rintro rfl
    cases offers
  obtain ⟨past, rest, writer, moment, value, ttl, reply, wrote, applied, same, fresh, call⟩ :=
    wrote_of_lookup unbound reached split present
  have whole := split
  rw [wrote, List.append_assoc, List.cons_append] at whole
  have law := binding_lawful (fun tid call => earns_lawful call) reached whole call
  have offering : allowed (wiring.backend.stored value) ≠ [] := by
    rw [show wiring.backend.stored value = init from same]
    exact List.ne_nil_of_mem offers
  obtain ⟨user, session, result, sameKey, rfl, rfl, resolved⟩ := law offering
  rw [← initKey_injective sameKey] at resolved
  have grown : past <+: before := ⟨_, wrote.symm⟩
  have resolvedHere := resolved.of_own.mono grown
  have owner : user = userId := by
    obtain ⟨_, _, _, ⟨_, inited⟩, -, -⟩ := resolvedHere
    obtain ⟨_, bound⟩ := began
    have inTrace {entry : BindingTraceEntry client} (member : entry ∈ before) :
        entry ∈ p.snapshot.trace := by
      rw [split]
      exact List.mem_append_left _ member
    exact user_of_session apart (inTrace inited) (inTrace bound) rfl rfl
  have asStored : init = result.toJs := same.symm.trans (stored_toJs wiring.backend result)
  refine ⟨writer, moment, result, reply, owner ▸ resolvedHere, asStored, ?_, applied,
    le_of_fresh_init fresh, ?_⟩
  · rw [asStored, allowed_toJs] at offers
    simpa using offers
  · rw [wrote]
    exact List.mem_append_right past List.mem_cons_self

/-- The write of a row was earned for the user and the reference of the row. -/
theorem earned_of_left (reached : Reachable (bindingSystem client aes wiring environment) world p)
    {before after : BindingTrace client} {write : BindingTraceEntry client}
    (split : p.snapshot.trace = before ++ write :: after) {id : String} {row : CustomerBinding}
    (left : Left write id row)
    (stands : p.snapshot.state.service.bindings.get? id = some row) :
    ∃ values, Earned aes (ownEntries write.tid before) write.tid row.userId row.customerRef
      values ∧ row.customerId = values.encCustomerId := by
  obtain ⟨values, wrote, -, sealed_⟩ := left
  have tables := tables_reachable reached
  obtain ⟨tid, time, event⟩ := write
  have inTrace : ⟨tid, time, event⟩ ∈ p.snapshot.trace := by
    rw [split]
    exact List.mem_append_right before List.mem_cons_self
  have named (entry : BindingTraceEntry client) (member : entry ∈ p.snapshot.trace)
      (userId customerRef : String) (owns : ownerIn entry = some (id, userId, customerRef)) :
      row.userId = userId ∧ row.customerRef = customerRef := by
    obtain ⟨other, found, ofUser, ofRef⟩ := tables.owners entry member id userId customerRef owns
    rw [stands, Option.some.injEq] at found
    exact found ▸ ⟨ofUser, ofRef⟩
  unfold writtenBy at wrote
  split at wrote
  · rename_i request answer same
    cases same
    have served := (binding_chronicle reached).owned.services before _ after split _ _ rfl
    have law := binding_lawful (fun tid call => earns_lawful call) reached split served
    refine ⟨values, ?_, sealed_⟩
    cases request with
    | updateBinding other written =>
        obtain ⟨-, same⟩ := Option.ite_none_right_eq_some.mp wrote
        cases same
        obtain ⟨userId, customerRef, selected, earned⟩ := law
        obtain ⟨moment, seen⟩ := saw_of_own selected
        have earlier : before <+: p.snapshot.trace := ⟨_, split.symm⟩
        obtain ⟨rfl, rfl⟩ := named _ (earlier.subset seen) userId customerRef rfl
        exact earned
    | insertBinding other userId customerRef written =>
        obtain ⟨applied, same⟩ := Option.ite_none_right_eq_some.mp wrote
        cases same
        obtain ⟨rfl, rfl⟩ := named _ inTrace userId customerRef (if_pos applied)
        exact law
    | _ => cases wrote
  · cases wrote

theorem named_of_saw (named : customersNamed p.snapshot.trace = true)
    {entry : BindingTraceEntry client} (member : entry ∈ p.snapshot.trace) {customerRef : String}
    {profile : CustomerProfileResponse}
    (event : entry.event = .answered (.inr (.client (.profile customerRef))) (.ok profile)) :
    profile.customerId ≠ "" := by
  have checked := List.all_eq_true.mp named entry member
  simpa [event] using checked

theorem created_named_of_saw (named : customersNamed p.snapshot.trace = true)
    {entry : BindingTraceEntry client} (member : entry ∈ p.snapshot.trace) {phone : String}
    {request : CreateCustomerRequest} {created : CreateCustomerResult}
    (event : entry.event = .answered (.inr (.client (.create phone request))) (.ok created)) :
    created.customerId ≠ "" := by
  have checked := List.all_eq_true.mp named entry member
  simpa [event] using checked

theorem proven_of_earned (unbound : Unbound wiring world)
    (reached : Reachable (bindingSystem client aes wiring environment) world p)
    (apart : sessionsApart p.snapshot.trace = true)
    (named : customersNamed p.snapshot.trace = true)
    {before after : BindingTrace client} {write : BindingTraceEntry client}
    (split : p.snapshot.trace = before ++ write :: after) {id : String} {row : CustomerBinding}
    (left : Left write id row) {values : VerifiedValues}
    (earned : Earned aes (ownEntries write.tid before) write.tid row.userId row.customerRef values)
    (sealed_ : row.customerId = values.encCustomerId) :
    Proven aes p.snapshot.trace id row := by
  have earlier : before <+: p.snapshot.trace := ⟨_, split.symm⟩
  cases earned with
  | registration sessionId phone request deviceInfo ip draws created began made chosen encrypted =>
      obtain ⟨moment, seen⟩ := saw_of_own made
      refine .byRegistration before after write.tid write sessionId phone request deviceInfo ip
        draws created split (saw_of_own began) ⟨moment, seen⟩ chosen ⟨rfl, left⟩ ?_
      rw [sealed_, encrypted]
      exact PiiEncryptionService.decryptIfNeeded_encryptIfNeeded aes draws.iv
        (created_named_of_saw named (earlier.subset seen) rfl)
  | challenge early late time sessionId body deviceInfo ip draws init profile looked began chosen
      offered verified profiled encrypted =>
      obtain ⟨past, middle, parts, ownPast, ownMiddle⟩ := split_of_own looked
      rw [← ownPast] at began
      rw [← ownMiddle] at verified profiled
      have whole := split
      rw [parts, List.append_assoc, List.cons_append] at whole
      obtain ⟨moment, seen⟩ := saw_of_own profiled
      have within : middle <:+ before := by
        rw [parts]
        exact (List.suffix_cons _ middle).trans (List.suffix_append past _)
      refine .byChallenge past middle after write.tid time write sessionId body deviceInfo ip draws
        init profile ?_ (saw_of_own began) chosen ?_ (saw_of_own verified) ⟨moment, seen⟩
        ⟨rfl, left⟩ ?_
      · rw [whole, List.append_assoc, List.cons_append]
      · exact offered_of_lookup unbound reached apart whole (saw_of_own began) offered
      · rw [sealed_, encrypted]
        exact PiiEncryptionService.decryptIfNeeded_encryptIfNeeded aes draws.iv
          (named_of_saw named (earlier.subset (within.subset seen)) rfl)

/-- Whatever the others do and the customer service answers, a verified row was earned. -/
theorem verified_binding_proven (client : CustomerServiceClient) (aes : AesGcm) (wiring : Wiring)
    (environment : CacheEnvironment) (world : BindingWorld client)
    (unbound : Unbound wiring world) (p : BindingPool client)
    (reached : Reachable (bindingSystem client aes wiring environment) world p)
    (apart : sessionsApart p.snapshot.trace = true)
    (named : customersNamed p.snapshot.trace = true) (id : String) (row : CustomerBinding)
    (stands : p.snapshot.state.service.bindings.get? id = some row)
    (verified : row.status = .verified) : Proven aes p.snapshot.trace id row := by
  rcases (tables_reachable reached).rows id row stands with old | ⟨write, member, left⟩
  · exact absurd verified (unbound.rows id row old)
  · obtain ⟨before, after, split⟩ := List.append_of_mem member
    obtain ⟨values, earned, sealed_⟩ := earned_of_left reached split left stands
    exact proven_of_earned unbound reached apart named split left earned sealed_

end Proof

/-! ### A customer who binds -/

theorem verified_binding_proven_first :
    ∃ p row, Reachable (mockBinding memoryBinding) (freshBinding 1700000000000) p ∧
      p.snapshot.state.service.bindings.get? "1" = some row ∧
      Proven sampleCipher p.snapshot.trace "1" row := by
  have unbound : Unbound memoryBinding (freshBinding 1700000000000) := by
    constructor
    · intro id row found
      cases found
    · exact fun _ => rfl
  obtain ⟨p, reached, apart, named, bound⟩ : ∃ p, Reachable (mockBinding memoryBinding)
      (freshBinding 1700000000000) p ∧ sessionsApart p.snapshot.trace = true ∧
        customersNamed p.snapshot.trace = true ∧
        (p.snapshot.state.service.bindings.get? "1").any (fun row => row.status = .verified) :=
    exists_reachable _ _ (obliging memoryBinding.backend "+84987654321") bindsFirst
      (by decide +kernel)
  obtain ⟨row, stands, verified⟩ := (Option.any_eq_true _ _).mp bound
  exact ⟨p, row, reached, stands, verified_binding_proven mockCustomerService sampleCipher
    memoryBinding .any _ unbound p reached apart named "1" row stands (of_decide_eq_true verified)⟩

end SelfService
