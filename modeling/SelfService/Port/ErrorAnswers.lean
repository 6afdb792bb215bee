/-
The HTTP answers to the errors of the ports.

`GlobalExceptionFilter.catch` turns an exception into the response that the
client gets.  A downstream status below 500 is passed on as it is.  So an error
has a valid answer unless it carries a downstream status below 400, such as that
of a redirect or the 0 that stands for an unreachable host.
-/

import SelfService.Core.Exceptions
import SelfService.Port.OutboundIdempotency
import SelfService.Support.ChatOutbox

namespace SelfService

/-! ### What an exception shows -/

def BaseKind.className : BaseKind → String
  | .notFound => "NotFoundException"
  | .unauthorized => "UnauthorizedException"
  | .forbidden => "ForbiddenException"
  | .conflict => "ConflictException"
  | .lockout => "LockoutException"
  | .concurrency => "ConcurrencyException"
  | .validation => "ValidationException"

namespace Exn

/-- The name of a `BaseException` is that of its class. -/
def name : Exn → String
  | .portDownstream _ _ _ _ => "PortDownstreamException"
  | .portTimeout _ _ => "PortTimeoutException"
  | .portNotRegistered _ => "PortNotRegisteredException"
  | .portFallbackMiss _ | .portFallback _ _ => "PortFallbackException"
  | .portQueued _ _ => "PortQueuedException"
  | .base kind _ _ _ => kind.className
  | .domain _ _ => "DomainException"
  | .http _ _ => "HttpException"
  | .error _ => "Error"

/-- The code of a `BaseException` or a `DomainException`. -/
def code : Exn → JsValue
  | .portDownstream _ _ _ _ => .str "PORT_DOWNSTREAM_ERROR"
  | .portTimeout _ _ => .str "PORT_TIMEOUT"
  | .portNotRegistered _ => .str "PORT_NOT_REGISTERED"
  | .portFallbackMiss _ | .portFallback _ _ => .str "PORT_FALLBACK_FAILED"
  | .portQueued _ _ => .str "PORT_QUEUED"
  | .base _ _ code _ | .domain _ code => .str code
  | .http _ _ | .error _ => .undefined

def details : Exn → JsValue
  | .portDownstream portName statusCode statusText url =>
      .obj [("portName", .str portName), ("statusCode", .num statusCode),
        ("statusText", .str statusText), ("url", .str url)]
  | .portTimeout portName timeout =>
      .obj [("portName", .str portName), ("timeout", .num timeout)]
  | .portNotRegistered portName => .obj [("portName", .str portName)]
  | .portFallbackMiss portName =>
      .obj [("portName", .str portName), ("originalError", .undefined)]
  | .portFallback portName cause =>
      .obj [("portName", .str portName), ("originalError", .str cause.message)]
  | .portQueued portName jobId =>
      .obj [("portName", .str portName), ("jobId", .str jobId), ("status", .str "queued")]
  | .base _ _ _ details => details
  | .domain _ _ | .http _ _ | .error _ => .undefined

end Exn

/-! ### The filter -/

/-- The request at hand and what the filter asks of its platform.  `accepts` tells
which status codes the reply takes; it throws on the others. -/
structure FilterHost where
  url : String
  method : String
  now : Nat
  isDevelopment : Bool
  stack : Exn → String
  accepts : Int → Bool

structure FilterResponse where
  status : Int
  body : JsValue
  deriving DecidableEq

namespace GlobalExceptionFilter

/-- The responses of `response.status(status).send(body)`. -/
def send (host : FilterHost) (status : Int) (body : JsValue) : List FilterResponse :=
  if host.accepts status then [⟨status, body⟩] else []

def errorResponse (host : FilterHost) (status : Int) (error : JsValue)
    (more : List (String × JsValue)) : JsValue :=
  .obj ([("success", .bool false), ("statusCode", .num status),
    ("timestamp", .str (JsValue.toISOString host.now)), ("path", .str host.url),
    ("method", .str host.method), ("error", error)] ++ more)

def handleHttpException (host : FilterHost) (exception : Exn) (status : Int)
    (exceptionResponse : JsValue) : List FilterResponse :=
  let error := match exceptionResponse with
    | .str text => .str text
    | other => if (other.field "message").truthy then other.field "message"
        else .str exception.message
  let details := match exceptionResponse with
    | .obj fields => if (fields.lookup "error").isSome then .obj fields else .undefined
    | _ => .undefined
  send host status (errorResponse host status error [("details", details)])

def handleBaseException (host : FilterHost) (exception : Exn) : List FilterResponse :=
  let status := exception.getHttpStatus
  send host status (errorResponse host status
    (.obj [("name", .str exception.name), ("code", exception.code),
      ("message", .str exception.message), ("details", exception.details)]) [])

def handleUnknownError (host : FilterHost) (error : Exn) : List FilterResponse :=
  send host 500 (errorResponse host 500
    (.obj ([("name", .str "InternalServerError"), ("code", .str "INTERNAL_SERVER_ERROR"),
      ("message", .str (if host.isDevelopment then error.message
        else "An unexpected error occurred"))] ++
      if host.isDevelopment then [("stack", .str (host.stack error))] else [])) [])

def queuedResponse (host : FilterHost) (portName jobId : String) : JsValue :=
  .obj [("success", .bool true), ("statusCode", .num 202), ("queued", .bool true),
    ("jobId", .str jobId), ("portName", .str portName),
    ("timestamp", .str (JsValue.toISOString host.now)),
    ("message", .str "Request accepted and queued for retry (downstream temporarily unavailable)")]

/-- The filter's `catch`, as the responses that reach the client. -/
def catchException (host : FilterHost) : Exn → List FilterResponse
  | .http status response => handleHttpException host (.http status response) status response
  | .portQueued portName jobId => send host 202 (queuedResponse host portName jobId)
  | .domain message code => handleUnknownError host (.domain message code)
  | .error message => handleUnknownError host (.error message)
  | exception => handleBaseException host exception

/-- Every way through the filter ends with one `send` of the exception's status. -/
theorem catchException_eq (host : FilterHost) (exception : Exn) :
    ∃ body, catchException host exception = send host exception.answerStatus body := by
  cases exception with
  | http status response => exact ⟨_, rfl⟩
  | portQueued portName jobId => exact ⟨_, rfl⟩
  | domain message code => exact ⟨_, rfl⟩
  | error message => exact ⟨_, rfl⟩
  | _ => exact ⟨_, rfl⟩

/-! ### Valid answers -/

def isQueued : Exn → Bool
  | .portQueued _ _ => true
  | _ => false

def ValidStatus (exception : Exn) (status : Int) : Prop :=
  if isQueued exception then status = 202 else 400 ≤ status ∧ status ≤ 599

/-- The client gets one response, and its status is valid. -/
def Answered (host : FilterHost) (exception : Exn) : Prop :=
  ∃ response, catchException host exception = [response] ∧ ValidStatus exception response.status

/-- No status below 400 comes from downstream. -/
def Forwardable : Exn → Prop
  | .portDownstream _ statusCode _ _ => 400 ≤ statusCode
  | .http status _ => 400 ≤ status ∧ status ≤ 599
  | _ => True

structure TakesErrors (host : FilterHost) : Prop where
  queued : host.accepts 202 = true
  error : ∀ status : Int, 400 ≤ status → status ≤ 599 → host.accepts status = true

theorem validStatus_iff_forwardable (exception : Exn) :
    ValidStatus exception exception.answerStatus ↔ Forwardable exception := by
  cases exception with
  | portDownstream portName statusCode statusText url =>
      by_cases server : statusCode ≥ 500
      · simp only [ValidStatus, isQueued, Exn.answerStatus, Exn.getHttpStatus, Forwardable,
          if_pos server]
        simp
        omega
      · simp only [ValidStatus, isQueued, Exn.answerStatus, Exn.getHttpStatus, Forwardable,
          if_neg server]
        simp
        omega
  | base kind message code details =>
      cases kind <;> simp [ValidStatus, isQueued, Exn.answerStatus, Exn.getHttpStatus, Forwardable]
  | _ => simp [ValidStatus, isQueued, Exn.answerStatus, Exn.getHttpStatus, Forwardable]

theorem accepts_of_validStatus {host : FilterHost} (takes : TakesErrors host)
    {exception : Exn} {status : Int} (valid : ValidStatus exception status) :
    host.accepts status = true := by
  unfold ValidStatus at valid
  split at valid
  · rw [valid]
    exact takes.queued
  · exact takes.error status valid.1 valid.2

/-- A valid status is sent, and no other status is a valid answer. -/
theorem answered_iff_validStatus {host : FilterHost} (takes : TakesErrors host)
    (exception : Exn) :
    Answered host exception ↔ ValidStatus exception exception.answerStatus := by
  obtain ⟨body, same⟩ := catchException_eq host exception
  constructor
  · intro answered
    obtain ⟨response, sent, valid⟩ := answered
    rw [same, send] at sent
    split at sent
    · have one : (⟨exception.answerStatus, body⟩ : FilterResponse) = response := by simpa using sent
      rw [← one] at valid
      exact valid
    · cases sent
  · intro valid
    refine ⟨⟨exception.answerStatus, body⟩, ?_, valid⟩
    rw [same, send, if_pos (accepts_of_validStatus takes valid)]

theorem answered_iff_forwardable {host : FilterHost} (takes : TakesErrors host)
    (exception : Exn) : Answered host exception ↔ Forwardable exception :=
  (answered_iff_validStatus takes exception).trans (validStatus_iff_forwardable exception)

/-! ### Where the statuses come from -/

/-- The answer that `requestInternal` reads last: that of the retry, after a 401 for a user. -/
def settledAnswer (context : Option RequestContext) (first second : HttpAnswer) : HttpAnswer :=
  match first, PortHttpClient.userOf context with
  | .response 401 _ _, some _ => second
  | answer, _ => answer

/-- The downstream answered with an informational, redirect or zero status. -/
def Odd : HttpAnswer → Prop
  | .response status _ _ => status < 200 ∨ 300 ≤ status ∧ status < 400
  | _ => False

def OddOutcome : FetchOutcome → Prop
  | .response status _ _ => status < 400
  | .aborted => False
  | .unreachable _ => True

theorem settleAnswer_forwardable {platform : HttpPlatform} {options : PortHttpRequest}
    {answer : HttpAnswer} {exception : Exn}
    (raised : PortHttpClient.settleAnswer platform options answer = .error exception) :
    Forwardable exception ↔ ¬ Odd answer := by
  cases answer with
  | response status statusText json =>
      simp only [PortHttpClient.settleAnswer] at raised
      split at raised
      case isTrue notOk =>
        injection raised with raised
        rw [← raised]
        simp only [Forwardable, Odd]
        omega
      case isFalse ok =>
        cases json with
        | some data => cases raised
        | none =>
            injection raised with raised
            rw [← raised]
            simp only [Forwardable, Odd]
            omega
  | aborted =>
      injection raised with raised
      simp [← raised, Forwardable, Odd]
  | failed message =>
      injection raised with raised
      simp [← raised, Forwardable, Odd]

theorem retryRequest_forwardable {platform : HttpPlatform} {options : PortHttpRequest}
    {answer : HttpAnswer} {exception : Exn}
    (raised : PortHttpClient.retryRequest platform options answer = .error exception) :
    Forwardable exception ↔ ¬ Odd answer := by
  cases answer with
  | response status statusText json =>
      simp only [PortHttpClient.retryRequest] at raised
      split at raised
      case isTrue expired =>
        injection raised with raised
        rw [← raised]
        simp only [Forwardable, Odd]
        omega
      case isFalse => exact settleAnswer_forwardable raised
  | aborted => exact @settleAnswer_forwardable platform options .aborted _ raised
  | failed message => exact @settleAnswer_forwardable platform options (.failed message) _ raised

/-- After a 401 for a user the retry decides. -/
theorem requestInternal_retried {platform : HttpPlatform} {now : Nat}
    {context : Option RequestContext} {options : PortHttpRequest} {statusText : String}
    {json : Option JsValue} {second : HttpAnswer} {present : RequestContext × String}
    (user : PortHttpClient.userOf context = some present) :
    (PortHttpClient.requestInternal platform now context options
        (.response 401 statusText json) second).2 =
      PortHttpClient.retryRequest platform options second ∧
    settledAnswer context (.response 401 statusText json) second = second := by
  simp only [PortHttpClient.requestInternal, settledAnswer, user, and_self]

theorem requestInternal_settled {platform : HttpPlatform} {now : Nat}
    {context : Option RequestContext} {options : PortHttpRequest} {first second : HttpAnswer}
    (settles : ∀ statusText json, first = .response 401 statusText json →
      PortHttpClient.userOf context = none) :
    (PortHttpClient.requestInternal platform now context options first second).2 =
      PortHttpClient.settleAnswer platform options first ∧
    settledAnswer context first second = first := by
  constructor
  · unfold PortHttpClient.requestInternal
    split
    case h_1 statusText json present user =>
      rw [settles statusText json rfl] at user
      cases user
    case h_2 => rfl
  · unfold settledAnswer
    split
    case h_1 statusText json present user =>
      rw [settles statusText json rfl] at user
      cases user
    case h_2 => rfl

/-- A failed request carries a status below 400 when the downstream answered with it. -/
theorem requestInternal_forwardable {platform : HttpPlatform} {now : Nat}
    {context : Option RequestContext} {options : PortHttpRequest} {first second : HttpAnswer}
    {exception : Exn}
    (raised : (PortHttpClient.requestInternal platform now context options first second).2 =
      .error exception) :
    Forwardable exception ↔ ¬ Odd (settledAnswer context first second) := by
  by_cases settles : ∀ statusText json, first = .response 401 statusText json →
      PortHttpClient.userOf context = none
  · obtain ⟨result, settled⟩ := @requestInternal_settled platform now context options first second
      settles
    rw [settled]
    exact settleAnswer_forwardable (result ▸ raised)
  · push Not at settles
    obtain ⟨statusText, json, rfl, user⟩ := settles
    obtain ⟨present, user⟩ := Option.ne_none_iff_exists'.mp user
    obtain ⟨result, settled⟩ := @requestInternal_retried platform now context options statusText
      json second present user
    rw [settled]
    exact retryRequest_forwardable (result ▸ raised)

theorem wireError_forwardable (url : String) (outcome : FetchOutcome) :
    Forwardable (CskhChatAdapter.wireError url outcome) ↔ ¬ OddOutcome outcome := by
  cases outcome with
  | response status statusText json =>
      simp only [CskhChatAdapter.wireError, Forwardable, OddOutcome]
      omega
  | aborted => simp [CskhChatAdapter.wireError, Forwardable, OddOutcome]
  | unreachable reason => simp [CskhChatAdapter.wireError, Forwardable, OddOutcome]

/-- An exception has a valid answer exactly if it carries no status below 400 from downstream.
Among those of the client and of the chat adapter, these are the ones that stand for an
informational, redirect or zero status. -/
theorem valid_answer_iff (host : FilterHost) (takes : TakesErrors host) :
    (∀ exception, Answered host exception ↔ Forwardable exception) ∧
    (∀ platform now context options first second exception,
      (PortHttpClient.requestInternal platform now context options first second).2 =
        .error exception →
      (Answered host exception ↔ ¬ Odd (settledAnswer context first second))) ∧
    (∀ url outcome, Answered host (CskhChatAdapter.wireError url outcome) ↔
      ¬ OddOutcome outcome) := by
  refine ⟨answered_iff_forwardable takes, ?_, ?_⟩
  · intro platform now context options first second exception raised
    exact (answered_iff_forwardable takes exception).trans (requestInternal_forwardable raised)
  · intro url outcome
    exact (answered_iff_forwardable takes _).trans (wireError_forwardable url outcome)

def clientHost : FilterHost where
  url := "/support/chat/messages"
  method := "POST"
  now := 0
  isDevelopment := false
  stack := fun _ => ""
  accepts := fun status => 100 ≤ status && status ≤ 599

theorem clientHost_takes : TakesErrors clientHost where
  queued := rfl
  error := by
    intro status least most
    simp only [clientHost, Bool.and_eq_true, decide_eq_true_eq]
    omega

/-- An unreachable host is no valid answer, a 404 is one. -/
theorem valid_answer_iff_chat :
    TakesErrors clientHost ∧
    ¬ Answered clientHost (CskhChatAdapter.wireError "http://cskh:3000" (.unreachable "refused")) ∧
    Answered clientHost (.portDownstream "billing" 404 "Not Found" "http://billing/invoices/1") :=
  ⟨clientHost_takes,
    fun answered => ((valid_answer_iff clientHost clientHost_takes).2.2 _ _).mp answered trivial,
    ((valid_answer_iff clientHost clientHost_takes).1 _).mpr (by simp [Forwardable])⟩

/-- With the host down the filter sends nothing, and a 304 from downstream is forwarded. -/
theorem odd_status_answer :
    catchException clientHost
        (CskhChatAdapter.wireError "http://cskh:3000" (.unreachable "refused")) = [] ∧
    ¬ Answered clientHost
        (CskhChatAdapter.wireError "http://cskh:3000" (.unreachable "refused")) ∧
    (catchException clientHost (.portDownstream "billing" 304 "Not Modified"
        "http://billing/invoices/1")).map FilterResponse.status = [304] ∧
    ¬ Answered clientHost (.portDownstream "billing" 304 "Not Modified"
        "http://billing/invoices/1") := by
  refine ⟨rfl, ?_, rfl, ?_⟩
  · rw [answered_iff_forwardable clientHost_takes]
    simp [CskhChatAdapter.wireError, Forwardable]
  · rw [answered_iff_forwardable clientHost_takes]
    simp [Forwardable]

end GlobalExceptionFilter

end SelfService
