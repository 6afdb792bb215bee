/-
The idempotency key of outbound requests.

`PortHttpClient` gives every POST and PUT a key made of the correlation id and a hash
of the port, the verb and the body.  A logical operation is what one caller asked of
one port; it may reach the wire several times, by the retry after a 401 and by a
replay from the queue.
-/

import SelfService.Port.Registry

namespace SelfService

open Data PortRegistry

/-! ### The inbound request -/

inductive HeaderValue
  | absent
  | one (value : String)
  | many (values : List String)

/-- An inbound request: its `x-correlation-id`, and the UUID drawn if it needs one. -/
structure InboundRequest where
  number : Nat
  header : HeaderValue
  uuid : String
  drawn : uuid ≠ ""

namespace CorrelationIdMiddleware

def extractCorrelationId : HeaderValue → Option String
  | .absent => none
  | .one value => some value
  | .many values => values.head?

/-- `a || b` on texts that may be missing. -/
def orElse (value : Option String) (otherwise : String) : String :=
  match value with
  | some text => if text = "" then otherwise else text
  | none => otherwise

def correlationId (request : InboundRequest) : String :=
  orElse (extractCorrelationId request.header) request.uuid

end CorrelationIdMiddleware

open CorrelationIdMiddleware (orElse)

namespace RequestContextProvider

/-- The timestamp and the causation id are left out: nothing below reads them. -/
def createFull (correlationId : Option String) (userId tenantId : Option String)
    (metadata : Option JsValue) (uuid : String) : RequestContext :=
  ⟨orElse correlationId uuid, userId, tenantId, metadata⟩

end RequestContextProvider

/-! ### Requests -/

inductive Verb
  | get | post | put | delete
  deriving DecidableEq

def Verb.text : Verb → String
  | .get => "GET"
  | .post => "POST"
  | .put => "PUT"
  | .delete => "DELETE"

structure PortHttpRequest where
  url : String
  method : Verb
  portName : String
  timeout : Option Nat
  body : Option JsValue
  params : Option JsValue

/-- What goes on the wire. -/
structure HttpCall where
  url : String
  method : Verb
  headers : List (String × String)
  body : Option JsValue

inductive HttpAnswer
  | response (status : Nat) (statusText : String) (json : Option JsValue)
  | aborted
  | failed (message : String)

/-- The platform: SHA-256 of a JSON text cut to sixteen digits, `encodeURIComponent` of
`String(value)`, and the JWT signed at a time for some claims. -/
structure HttpPlatform where
  jsonHash : JsValue → ShortHash
  component : JsValue → String
  sign : Nat → JsValue → String

namespace PortHttpClient

def correlationIdOf (context : Option RequestContext) : String :=
  match context with
  | some context => context.correlationId
  | none => "no-correlation-id"

/-- What is hashed: the JSON text of port, verb and body. -/
def operationText (portName : String) (method : Verb) (body : Option JsValue) : JsValue :=
  (JsValue.obj [("portName", .str portName), ("method", .str method.text),
    ("body", body.getD (.obj []))]).roundTrip

def idempotencyKey (platform : HttpPlatform) (correlationId : String) (options : PortHttpRequest) :
    String :=
  correlationId ++ ":" ++
    (platform.jsonHash (operationText options.portName options.method options.body)).text

def metadataOf (context : RequestContext) : JsValue := context.metadata.getD .undefined

/-- `value ?? otherwise`. -/
def nullish (value otherwise : JsValue) : JsValue := if value.isNullish then otherwise else value

def claims (context : RequestContext) (userId : String) : JsValue :=
  .obj [("sub", .str userId),
    ("roles", nullish ((metadataOf context).field "roles") (.arr [.str "customer"])),
    ("provider", nullish ((metadataOf context).field "provider") (.str "app")),
    ("sessionId", nullish ((metadataOf context).field "sessionId") (.str "")),
    ("xiNghiep", (context.tenantId.map JsValue.str).getD .undefined)]

/-- The user of a context, where there is one that is not empty. -/
def userOf (context : Option RequestContext) : Option (RequestContext × String) := do
  let present ← context
  let userId ← present.userId
  if userId = "" then none else some (present, userId)

def bearer (platform : HttpPlatform) (now : Nat) (context : RequestContext) (userId : String) :
    String :=
  "Bearer " ++ platform.sign now (claims context userId)

/-- The JWT signed by the middleware, or one signed now. -/
def authorization (platform : HttpPlatform) (now : Nat) (context : Option RequestContext) :
    List (String × String) :=
  match userOf context with
  | none => []
  | some (present, userId) =>
      match (metadataOf present).field "signedJwt" with
      | .str jwt => [("Authorization", "Bearer " ++ jwt)]
      | _ => [("Authorization", bearer platform now present userId)]

def headersOf (platform : HttpPlatform) (now : Nat) (context : Option RequestContext)
    (options : PortHttpRequest) : List (String × String) :=
  [("Content-Type", "application/json"), ("x-correlation-id", correlationIdOf context)] ++
    authorization platform now context ++
    if options.method = .post ∨ options.method = .put then
      [("x-idempotency-key", idempotencyKey platform (correlationIdOf context) options)]
    else []

def queryString (platform : HttpPlatform) : JsValue → String
  | .obj fields => "&".intercalate ((fields.filter fun field => !field.2.isNullish).map
      fun field => platform.component (.str field.1) ++ "=" ++ platform.component field.2)
  | _ => ""

/-- The parameters of a GET go into the URL. -/
def finalUrl (platform : HttpPlatform) (options : PortHttpRequest) : String :=
  match options.params, options.method with
  | some params, .get =>
      let query := queryString platform params
      if query = "" then options.url
      else options.url ++ (if options.url.toList.contains '?' then "&" else "?") ++ query
  | _, _ => options.url

def callOf (platform : HttpPlatform) (headers : List (String × String)) (options : PortHttpRequest) :
    HttpCall where
  url := finalUrl platform options
  method := options.method
  headers := headers
  body := if options.method = .get then none else options.body

def timeoutOf (options : PortHttpRequest) : Nat := options.timeout.getD 3000

def settleAnswer (platform : HttpPlatform) (options : PortHttpRequest) :
    HttpAnswer → Except Exn JsValue
  | .response status statusText json =>
      if status < 200 ∨ 300 ≤ status then
        .error (.portDownstream options.portName status statusText (finalUrl platform options))
      else
        match json with
        | some data => .ok data
        | none => .error (.portDownstream options.portName 502 "Invalid JSON response body"
            (finalUrl platform options))
  | .aborted => .error (.portTimeout options.portName (timeoutOf options))
  | .failed message => .error (.error message)

/-- The retry keeps the headers, but for the JWT. -/
def reauthorized (platform : HttpPlatform) (now : Nat) (context : Option RequestContext)
    (headers : List (String × String)) : List (String × String) :=
  match userOf context with
  | none => headers
  | some (present, userId) => headers.map fun header =>
      if header.1 = "Authorization" then (header.1, bearer platform now present userId) else header

def retryRequest (platform : HttpPlatform) (options : PortHttpRequest) : HttpAnswer → Except Exn JsValue
  | .response status statusText json =>
      if status = 401 then
        .error (.portDownstream options.portName 401 "Session expired — please re-authenticate"
          (finalUrl platform options))
      else settleAnswer platform options (.response status statusText json)
  | answer => settleAnswer platform options answer

/-- The requests on the wire and the outcome, for the answers to the first request and to the
retry.  A 401 is retried once, for a user. -/
def requestInternal (platform : HttpPlatform) (now : Nat) (context : Option RequestContext)
    (options : PortHttpRequest) (first second : HttpAnswer) : List HttpCall × Except Exn JsValue :=
  let headers := headersOf platform now context options
  let call := callOf platform headers options
  match first, userOf context with
  | .response 401 _ _, some _ =>
      ([call, callOf platform (reauthorized platform now context headers) options],
        retryRequest platform options second)
  | _, _ => ([call], settleAnswer platform options first)

end PortHttpClient

/-! ### Adapters -/

structure InternalAdapterConfig where
  portName : String
  baseUrl : String
  timeout : Nat
  methodMap : List (String × Verb)

namespace InternalAdapterBase

def wordUnit (symbol : Char) : Bool := symbol.isAlphanum || symbol = '_'

/-- A placeholder gives way to its parameter, if there is one. -/
def filled (platform : HttpPlatform) (params : JsValue) (word placeholder : List Char) : List Char :=
  let value := params.field (String.ofList word)
  if value.isNullish then placeholder else (platform.component value).toList

/-- The placeholders are `{word}` and `:word`. -/
def substitute (platform : HttpPlatform) (params : JsValue) : Nat → List Char → List Char
  | 0, rest => rest
  | _ + 1, [] => []
  | fuel + 1, symbol :: rest =>
      let word := rest.takeWhile wordUnit
      let after := rest.dropWhile wordUnit
      if word = [] then symbol :: substitute platform params fuel rest
      else if symbol = '{' ∧ after.head? = some '}' then
        filled platform params word ('{' :: word ++ ['}']) ++
          substitute platform params fuel after.tail
      else if symbol = ':' then
        filled platform params word (':' :: word) ++ substitute platform params fuel after
      else symbol :: substitute platform params fuel rest

def buildUrl (platform : HttpPlatform) (config : InternalAdapterConfig) (method : String)
    (params : JsValue) : String :=
  let text := (config.baseUrl ++ "/" ++ method).toList
  String.ofList (substitute platform params text.length text)

def startsWith (method start : String) : Bool := start.toList.isPrefixOf method.toList

def resolveHttpMethod (config : InternalAdapterConfig) (method : String) : Verb :=
  match config.methodMap.lookup method with
  | some verb => verb
  | none =>
      if ["get-", "search", "list"].any (startsWith method) then .get
      else if ["update", "edit"].any (startsWith method) then .put
      else if ["delete", "remove", "cancel"].any (startsWith method) then .delete
      else .post

def portRequest (platform : HttpPlatform) (config : InternalAdapterConfig) (method : String)
    (params : JsValue) : PortHttpRequest :=
  let verb := resolveHttpMethod config method
  { url := buildUrl platform config method params
    method := verb
    portName := config.portName
    timeout := some config.timeout
    body := if verb = .get then none else some params
    params := if verb = .get then some params else none }

/-- `execute`, run in a request context. -/
def execute (platform : HttpPlatform) (config : InternalAdapterConfig) (now : Nat)
    (context : Option RequestContext) (method : String) (params : JsValue)
    (first second : HttpAnswer) : List HttpCall × Except Exn JsValue :=
  PortHttpClient.requestInternal platform now context (portRequest platform config method params)
    first second

end InternalAdapterBase

/-! ### Logical operations -/

/-- What one caller asks of one port.  `inbound` is the request it is asked in, if any; the user,
the tenant and the metadata are those of the session. -/
structure LogicalOperation where
  inbound : Option InboundRequest
  userId : Option String
  tenantId : Option String
  metadata : Option JsValue
  adapter : InternalAdapterConfig
  method : String
  params : List (String × JsValue)

namespace LogicalOperation

/-- The context that the two middlewares set up. -/
def context (operation : LogicalOperation) : Option RequestContext :=
  operation.inbound.map fun request =>
    RequestContextProvider.createFull (some (CorrelationIdMiddleware.correlationId request))
      operation.userId operation.tenantId operation.metadata request.uuid

def verb (operation : LogicalOperation) : Verb :=
  InternalAdapterBase.resolveHttpMethod operation.adapter operation.method

/-- A call of the registry, or its replay from the queue with a UUID at hand. -/
inductive Run
  | direct (now : Nat) (first second : HttpAnswer)
  | replay (uuid : String) (now : Nat) (first second : HttpAnswer)

def invocation (operation : LogicalOperation) : Invocation where
  context := operation.context
  portName := operation.adapter.portName
  method := operation.method
  params := .obj operation.params
  idempotencyKey := none

/-- A job crosses the queue as JSON. -/
def replayContext (operation : LogicalOperation) (uuid : String) : RequestContext :=
  let queued := (replayPayload operation.invocation).context
  RequestContextProvider.createFull (some queued.correlationId) queued.userId queued.tenantId
    (queued.metadata.map JsValue.roundTrip) uuid

/-- The requests that a run of the operation puts on the wire. -/
def calls (platform : HttpPlatform) (operation : LogicalOperation) : Run → List HttpCall
  | .direct now first second =>
      (InternalAdapterBase.execute platform operation.adapter now operation.context
        operation.method (.obj operation.params) first second).1
  | .replay uuid now first second =>
      (InternalAdapterBase.execute platform operation.adapter now
        (some (operation.replayContext uuid)) operation.method
        (JsValue.obj operation.params).roundTrip first second).1

def url (platform : HttpPlatform) (operation : LogicalOperation) : String :=
  InternalAdapterBase.buildUrl platform operation.adapter operation.method (.obj operation.params)

/-- Another target or operation name, another user or another inbound request. -/
def Differs (platform : HttpPlatform) (first second : LogicalOperation) : Prop :=
  first.url platform ≠ second.url platform ∨
    (first.adapter.portName, first.method) ≠ (second.adapter.portName, second.method) ∨
    first.userId ≠ second.userId ∨
    first.inbound.map InboundRequest.number ≠ second.inbound.map InboundRequest.number

def correlationId (operation : LogicalOperation) : String :=
  PortHttpClient.correlationIdOf operation.context

def text (operation : LogicalOperation) : JsValue :=
  PortHttpClient.operationText operation.adapter.portName operation.verb
    (some (.obj operation.params))

end LogicalOperation

def idempotencyHeader (call : HttpCall) : Option String := call.headers.lookup "x-idempotency-key"

/-- Every attempt carries one key, and operations that differ never carry the same. -/
def KeysIdentify (platform : HttpPlatform) (first second : LogicalOperation) : Prop :=
  (∀ run again, ∀ call ∈ first.calls platform run, ∀ other ∈ first.calls platform again,
    idempotencyHeader call = idempotencyHeader other) ∧
  (first.Differs platform second →
    ∀ run again, ∀ call ∈ first.calls platform run, ∀ other ∈ second.calls platform again,
      idempotencyHeader call ≠ idempotencyHeader other)

/-- What the key tells apart. -/
def Distinguished (first second : LogicalOperation) : Prop :=
  first.correlationId ≠ second.correlationId ∨
    first.adapter.portName ≠ second.adapter.portName ∨ first.verb ≠ second.verb ∨
    (JsValue.obj first.params).roundTrip ≠ (JsValue.obj second.params).roundTrip

/-! ### JSON twice -/

theorem roundTrip_twice (fields : List (String × JsValue)) :
    (JsValue.obj fields).roundTrip.roundTrip = (JsValue.obj fields).roundTrip :=
  JsValue.roundTrip_of_isJson _ (JsValue.isJson_roundTrip _ (by simp))

/-! ### The key of an attempt -/

section Keys

variable {platform : HttpPlatform} {operation first second : LogicalOperation}

theorem operationText_roundTrip (portName : String) (method : Verb)
    (fields : List (String × JsValue)) :
    PortHttpClient.operationText portName method (some (JsValue.obj fields).roundTrip) =
      PortHttpClient.operationText portName method (some (.obj fields)) := by
  have twice := roundTrip_twice fields
  simp only [PortHttpClient.operationText, Option.getD_some, JsValue.roundTrip,
    JsValue.roundTripFields] at twice ⊢
  rw [twice]

/-- Texts are the same only for the same port, verb and body. -/
theorem operationText_inj (portName other : String) (method verb : Verb)
    (fields others : List (String × JsValue)) :
    PortHttpClient.operationText portName method (some (.obj fields)) =
        PortHttpClient.operationText other verb (some (.obj others)) ↔
      portName = other ∧ method = verb ∧
        (JsValue.obj fields).roundTrip = (JsValue.obj others).roundTrip := by
  have texts : method.text = verb.text ↔ method = verb := by
    cases method <;> cases verb <;> simp [Verb.text]
  simp [PortHttpClient.operationText, JsValue.roundTrip, JsValue.roundTripFields, texts]

theorem orElse_ne (value : Option String) {otherwise : String} (present : otherwise ≠ "") :
    orElse value otherwise ≠ "" := by
  unfold orElse
  split
  · split
    · exact present
    · rename_i filled
      exact filled
  · exact present

/-- A correlation id is never empty, so a replay keeps it. -/
theorem correlationId_ne (operation : LogicalOperation) : operation.correlationId ≠ "" := by
  unfold LogicalOperation.correlationId LogicalOperation.context
  cases operation.inbound with
  | none => exact (by decide : "no-correlation-id" ≠ "")
  | some request =>
      change orElse (some (CorrelationIdMiddleware.correlationId request)) request.uuid ≠ ""
      exact orElse_ne _ request.drawn

theorem orElse_of_ne {text otherwise : String} (present : text ≠ "") :
    orElse (some text) otherwise = text := if_neg present

theorem replay_correlationId (operation : LogicalOperation) (uuid : String) :
    (operation.replayContext uuid).correlationId = operation.correlationId := by
  have queued : (replayPayload operation.invocation).context.correlationId =
      operation.correlationId := by
    unfold replayPayload currentContext LogicalOperation.invocation LogicalOperation.correlationId
    cases operation.context with
    | none => rfl
    | some context => rfl
  change orElse (some (replayPayload operation.invocation).context.correlationId) uuid = _
  rw [queued, orElse_of_ne (correlationId_ne operation)]

theorem lookup_reauthorized (now : Nat) (context : Option RequestContext)
    (headers : List (String × String)) :
    (PortHttpClient.reauthorized platform now context headers).lookup "x-idempotency-key" =
      headers.lookup "x-idempotency-key" := by
  unfold PortHttpClient.reauthorized
  split
  · rfl
  · induction headers with
    | nil => rfl
    | cons header rest ih =>
        obtain ⟨name, value⟩ := header
        rw [List.map_cons]
        split
        · rename_i same
          simp only at same
          subst same
          simpa [List.lookup_cons] using ih
        · simp only [List.lookup_cons]
          rw [ih]

/-- Every request of one `requestInternal` carries its key. -/
theorem header_requestInternal {now : Nat} {context : Option RequestContext}
    {options : PortHttpRequest} (writes : options.method = .post ∨ options.method = .put)
    {answer again : HttpAnswer} {call : HttpCall}
    (issued : call ∈ (PortHttpClient.requestInternal platform now context options answer again).1) :
    idempotencyHeader call = some (PortHttpClient.idempotencyKey platform
      (PortHttpClient.correlationIdOf context) options) := by
  have keyed : (PortHttpClient.headersOf platform now context options).lookup
      "x-idempotency-key" = some (PortHttpClient.idempotencyKey platform
        (PortHttpClient.correlationIdOf context) options) := by
    unfold PortHttpClient.headersOf
    rw [if_pos writes]
    unfold PortHttpClient.authorization
    split
    · simp [List.lookup_cons]
    · split <;> simp [List.lookup_cons]
  unfold PortHttpClient.requestInternal at issued
  split at issued
  · rcases List.mem_cons.mp issued with rfl | retried
    · exact keyed
    · rw [List.mem_singleton.mp retried, idempotencyHeader, PortHttpClient.callOf, lookup_reauthorized]
      exact keyed
  · rw [List.mem_singleton.mp issued]
    exact keyed

theorem requestInternal_ne_nil {now : Nat} {context : Option RequestContext}
    {options : PortHttpRequest} {answer again : HttpAnswer} :
    (PortHttpClient.requestInternal platform now context options answer again).1 ≠ [] := by
  unfold PortHttpClient.requestInternal
  split <;> simp

/-- The key of every attempt of an operation. -/
def LogicalOperation.key (platform : HttpPlatform) (operation : LogicalOperation) : String :=
  operation.correlationId ++ ":" ++ (platform.jsonHash operation.text).text

def LogicalOperation.Writes (operation : LogicalOperation) : Prop :=
  operation.verb = .post ∨ operation.verb = .put

theorem header_calls (writes : operation.Writes) (run : LogicalOperation.Run) {call : HttpCall}
    (issued : call ∈ operation.calls platform run) :
    idempotencyHeader call = some (operation.key platform) := by
  have notRead : operation.verb ≠ .get := by
    rcases writes with post | put
    · rw [post]
      decide
    · rw [put]
      decide
  have sends (params : JsValue) :
      (InternalAdapterBase.portRequest platform operation.adapter operation.method
        params).method = .post ∨
      (InternalAdapterBase.portRequest platform operation.adapter operation.method
        params).method = .put := writes
  have body (params : JsValue) : (InternalAdapterBase.portRequest platform operation.adapter
      operation.method params).body = some params := if_neg notRead
  cases run with
  | direct now answer again =>
      rw [header_requestInternal (sends _) issued, PortHttpClient.idempotencyKey, body]
      rfl
  | replay uuid now answer again =>
      rw [header_requestInternal (sends _) issued, PortHttpClient.idempotencyKey, body,
        PortHttpClient.correlationIdOf, replay_correlationId]
      simp only [LogicalOperation.key, LogicalOperation.text, InternalAdapterBase.portRequest]
      rw [operationText_roundTrip]
      rfl

theorem calls_ne_nil (run : LogicalOperation.Run) : operation.calls platform run ≠ [] := by
  cases run with
  | direct now answer again => exact requestInternal_ne_nil
  | replay uuid now answer again => exact requestInternal_ne_nil

theorem ShortHash.ext_text {hash other : ShortHash} (same : hash.text = other.text) : hash = other := by
  obtain ⟨text, hex⟩ := hash
  cases same
  rfl

/-- A hash has no colon, so a key falls apart in one way. -/
theorem key_parts {correlationId other : String} {hash again : ShortHash} :
    correlationId ++ ":" ++ hash.text = other ++ ":" ++ again.text ↔
      correlationId = other ∧ hash = again := by
  have free (hash : ShortHash) : ':' ∉ hash.text.toList :=
    fun member => absurd (hash.hex ':' member) (by decide)
  constructor
  · intro same
    have units : correlationId.toList ++ ':' :: hash.text.toList =
        other.toList ++ ':' :: again.text.toList := by
      simpa using congrArg String.toList same
    have parts : correlationId.toList = other.toList ∧ hash.text.toList = again.text.toList := by
      rcases List.append_eq_append_iff.mp units with ⟨middle, grown, rest⟩ | ⟨middle, grown, rest⟩
      · cases middle with
        | nil =>
            rw [List.nil_append] at rest
            exact ⟨by simpa using grown.symm, (List.cons.inj rest).2⟩
        | cons head middle =>
            rw [List.cons_append] at rest
            have inside : ':' ∈ hash.text.toList := by
              rw [(List.cons.inj rest).2]
              simp
            exact absurd inside (free hash)
      · cases middle with
        | nil =>
            rw [List.nil_append] at rest
            exact ⟨by simpa using grown, (List.cons.inj rest).2.symm⟩
        | cons head middle =>
            rw [List.cons_append] at rest
            have inside : ':' ∈ again.text.toList := by
              rw [(List.cons.inj rest).2]
              simp
            exact absurd inside (free again)
    exact ⟨String.toList_inj.mp parts.1, ShortHash.ext_text (String.toList_inj.mp parts.2)⟩
  · rintro ⟨rfl, rfl⟩
    rfl

/-- Two operations share their key exactly if it does not tell them apart. -/
theorem key_eq_iff
    (injective : platform.jsonHash first.text = platform.jsonHash second.text →
      first.text = second.text) :
    first.key platform = second.key platform ↔ ¬ Distinguished first second := by
  have texts : platform.jsonHash first.text = platform.jsonHash second.text ↔
      first.text = second.text := ⟨injective, fun same => by rw [same]⟩
  unfold LogicalOperation.key
  rw [key_parts, texts]
  unfold LogicalOperation.text Distinguished
  rw [operationText_inj]
  simp only [not_or, not_not]

/-- With a hash that does not collide on the two operations, the keys identify them exactly if
operations that differ are told apart by what goes into the key. -/
theorem keys_identify_iff (writes : first.Writes) (alsoWrites : second.Writes)
    (injective : platform.jsonHash first.text = platform.jsonHash second.text →
      first.text = second.text) :
    KeysIdentify platform first second ↔
      (first.Differs platform second → Distinguished first second) := by
  constructor
  · rintro ⟨-, distinct⟩ differs
    by_contra shared
    have run : LogicalOperation.Run := .direct 0 .aborted .aborted
    obtain ⟨call, issued⟩ := List.exists_mem_of_ne_nil _ (calls_ne_nil run)
    obtain ⟨other, alsoIssued⟩ := List.exists_mem_of_ne_nil _ (calls_ne_nil run)
    apply distinct differs run run call issued other alsoIssued
    rw [header_calls writes run issued, header_calls alsoWrites run alsoIssued,
      (key_eq_iff injective).mpr shared]
  · intro apart
    constructor
    · intro run again call issued other alsoIssued
      rw [header_calls writes run issued, header_calls writes again alsoIssued]
    · intro differs run again call issued other alsoIssued same
      rw [header_calls writes run issued, header_calls alsoWrites again alsoIssued,
        Option.some.injEq, key_eq_iff injective] at same
      exact same (apart differs)

end Keys

/-! ### Two operations of one request -/

def paymentAdapter : InternalAdapterConfig := ⟨"payment", "http://localhost:3001/payments", 5000, []⟩

def inboundOrder : InboundRequest := ⟨1, .one "c-1", "u-1", by decide⟩

def paymentOperation (method contractId : String) : LogicalOperation :=
  ⟨some inboundOrder, some "user-1", none, none, paymentAdapter, method,
    [("contractId", .str contractId)]⟩

/-- Two operations of one port with the same body share their key, whatever the hash is. -/
theorem shared_key : ∃ first second : LogicalOperation, first.Writes ∧ second.Writes ∧
    ∀ platform, first.Differs platform second ∧ ¬ KeysIdentify platform first second := by
  refine ⟨paymentOperation "setup-auto-debit" "HD-1", paymentOperation "initiate" "HD-1", .inl (by decide),
    .inl (by decide), fun platform => ?_⟩
  have differs : (paymentOperation "setup-auto-debit" "HD-1").Differs platform
      (paymentOperation "initiate" "HD-1") := .inr (.inl (by decide))
  refine ⟨differs, ?_⟩
  have text : (paymentOperation "setup-auto-debit" "HD-1").text =
      (paymentOperation "initiate" "HD-1").text := by decide
  intro identified
  have shared := (keys_identify_iff (.inl (by decide)) (.inl (by decide)) fun _ => text).mp
    identified differs
  revert shared
  unfold Distinguished
  decide

/-- The hashes of the two bodies below. -/
def paymentPlatform : HttpPlatform where
  jsonHash text :=
    if text = (paymentOperation "initiate" "HD-1").text then ⟨"196bb78bc4104948", by decide⟩
    else ⟨"e30edfb2d5829291", by decide⟩
  component _ := ""
  sign _ _ := "jwt"

/-- Two contracts are paid in one request, under two keys. -/
theorem keys_identify_iff_contracts :
    KeysIdentify paymentPlatform (paymentOperation "initiate" "HD-1")
        (paymentOperation "initiate" "HD-2") ↔
      ((paymentOperation "initiate" "HD-1").Differs paymentPlatform
          (paymentOperation "initiate" "HD-2") →
        Distinguished (paymentOperation "initiate" "HD-1") (paymentOperation "initiate" "HD-2")) :=
  keys_identify_iff (.inl (by decide)) (.inl (by decide)) (by
    intro same
    exact absurd (congrArg ShortHash.text same) (by decide))

end SelfService
