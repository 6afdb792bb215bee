/-
The retry after a 401, effect by effect.

`request` and `retryRequest` are followed with the timers they arm and clear, the tokens they
have signed and the requests they send.  The retry is returned without being awaited: its first
segment runs within the `try` of the first request, and the rest after the `finally`.
-/

import SelfService.Port.OutboundIdempotency

namespace SelfService

/-! ### Effects -/

/-- What a run shows: a timer is armed or cleared, a token is signed, a request is sent with the
signal of a timer. -/
inductive HttpEffect : Type
  | armed (timer millis : Nat)
  | cleared (timer : Nat)
  | signed (token : String)
  | sent (call : HttpCall) (timer : Nat)

namespace HttpEffect

def armed? : HttpEffect → Option Nat
  | .armed timer _ => some timer
  | _ => none

def sent? : HttpEffect → Option HttpCall
  | .sent call _ => some call
  | _ => none

end HttpEffect

/-- What is thrown: the `AbortError` of a signal, or another error. -/
inductive HttpThrown : Type
  | abortError
  | exn (error : Exn)

/-- The log of the effects, and the number of timers, signatures and requests so far. -/
structure HttpLog where
  effects : List HttpEffect
  timers : Nat
  signatures : Nat
  requests : Nat

def HttpLog.empty : HttpLog := ⟨[], 0, 0, 0⟩

/-- A response whose headers have arrived; `json` is what its body parses to, if it can be read
and parsed. -/
structure HttpResponse where
  status : Nat
  statusText : String
  json : Option JsValue

abbrev HttpTask (α : Type) := HttpLog → Except HttpThrown α × HttpLog

namespace HttpTask

variable {α β : Type}

def done (value : α) : HttpTask α := fun log => (.ok value, log)

def throw (error : HttpThrown) : HttpTask α := fun log => (.error error, log)

def bind (task : HttpTask α) (rest : α → HttpTask β) : HttpTask β := fun log =>
  match task log with
  | (.ok value, later) => rest value later
  | (.error error, later) => (.error error, later)

/-- `try task catch (error) { handler } finally { cleanup }`. -/
def tryCatchFinally (task : HttpTask α) (handler : HttpThrown → HttpTask α)
    (cleanup : HttpLog → HttpLog) : HttpTask α := fun log =>
  let ended : Except HttpThrown α × HttpLog :=
    match task log with
    | (.ok value, later) => (.ok value, later)
    | (.error error, later) => handler error later
  (ended.1, cleanup ended.2)

instance : Monad HttpTask where
  pure := done
  bind := bind

end HttpTask

namespace PortHttpClient

/-- The process around the client: the platform, the time of each signature, and the answer to
each request. -/
structure HttpWorld where
  platform : HttpPlatform
  moments : Nat → Nat
  answers : Nat → HttpAnswer

section Effects

variable (world : HttpWorld)

/-- `setTimeout(() => controller.abort(), timeout)`. -/
def setTimer (millis : Nat) : HttpTask Nat := fun log =>
  (.ok log.timers, { log with
    effects := log.effects ++ [.armed log.timers millis]
    timers := log.timers + 1 })

def clearTimer (timer : Nat) (log : HttpLog) : HttpLog :=
  { log with effects := log.effects ++ [.cleared timer] }

/-- `jwtSigner.sign`. -/
def signed (present : RequestContext) (userId : String) : HttpTask String := fun log =>
  let token := world.platform.sign (world.moments log.signatures) (claims present userId)
  (.ok token, { log with
    effects := log.effects ++ [.signed token]
    signatures := log.signatures + 1 })

/-- The first segment of a `fetch`: the request is on its way. -/
def send (call : HttpCall) (timer : Nat) : HttpTask Nat := fun log =>
  (.ok log.requests, { log with
    effects := log.effects ++ [.sent call timer]
    requests := log.requests + 1 })

/-- The rest of a `fetch`. -/
def answerTo (request : Nat) : HttpTask HttpResponse :=
  match world.answers request with
  | .response status statusText json => .done ⟨status, statusText, json⟩
  | .aborted => .throw .abortError
  | .failed message => .throw (.exn (.error message))

/-! ### The client -/

variable (context : Option RequestContext) (options : PortHttpRequest)

/-- The header of the token: the one of the middleware, or one signed now. -/
def authorized : HttpTask (List (String × String)) :=
  match userOf context with
  | none => .done []
  | some (present, userId) =>
      match (metadataOf present).field "signedJwt" with
      | .str jwt => .done [("Authorization", "Bearer " ++ jwt)]
      | _ => do
          let jwt ← signed world present userId
          return [("Authorization", "Bearer " ++ jwt)]

def buildHeaders : HttpTask (List (String × String)) := do
  let authorization ← authorized world context
  return [("Content-Type", "application/json"), ("x-correlation-id", correlationIdOf context)] ++
    authorization ++
    if options.method = .post ∨ options.method = .put then
      [("x-idempotency-key", idempotencyKey world.platform (correlationIdOf context) options)]
    else []

/-- `headers['Authorization'] = ...`. -/
def withToken (jwt : String) (headers : List (String × String)) : List (String × String) :=
  headers.map fun header =>
    if header.1 = "Authorization" then (header.1, "Bearer " ++ jwt) else header

def newToken (headers : List (String × String)) : HttpTask (List (String × String)) :=
  match userOf context with
  | none => .done headers
  | some (present, userId) => do
      let jwt ← signed world present userId
      return withToken jwt headers

def downstream (status : Nat) (statusText : String) : HttpThrown :=
  .exn (.portDownstream options.portName status statusText (finalUrl world.platform options))

def sessionExpired : HttpThrown :=
  downstream world options 401 "Session expired — please re-authenticate"

/-- From the check of `response.ok` on, which both requests have. -/
def readBody (response : HttpResponse) : HttpTask JsValue :=
  if response.status < 200 ∨ 300 ≤ response.status then
    .throw (downstream world options response.status response.statusText)
  else
    match response.json with
    | some data => .done data
    | none => .throw (downstream world options 502 "Invalid JSON response body")

/-- The `catch` block, which both requests have. -/
def rethrow : HttpThrown → HttpTask JsValue
  | .abortError => .throw (.exn (.portTimeout options.portName (timeoutOf options)))
  | error => .throw error

/-- A retry under way: its request and its timer. -/
structure RetryPromise where
  request : Nat
  timer : Nat

/-- `retryRequest` up to its `await`. -/
def retryRequestStarted (headers : List (String × String)) : HttpTask RetryPromise := do
  let timer ← setTimer (timeoutOf options)
  let request ← send (callOf world.platform headers options) timer
  return ⟨request, timer⟩

/-- `retryRequest` from its `await` on. -/
def retryRequestSettled (promise : RetryPromise) : HttpTask JsValue :=
  HttpTask.tryCatchFinally
    (do
      let response ← answerTo world promise.request
      if response.status = 401 then .throw (sessionExpired world options)
      else readBody world options response)
    (rethrow options) (clearTimer promise.timer)

/-- What the `try` block of `requestInternal` returns: a body, or the promise of the retry. -/
inductive TryResult : Type
  | body (data : JsValue)
  | retried (promise : RetryPromise)

def tryBlock (isRetry : Bool) (headers : List (String × String)) (timer : Nat) :
    HttpTask TryResult := do
  let request ← send (callOf world.platform headers options) timer
  let response ← answerTo world request
  if response.status = 401 ∧ isRetry = false ∧ (userOf context).isSome = true then
    let renewed ← newToken world context headers
    let promise ← retryRequestStarted world options renewed
    return .retried promise
  else if response.status = 401 ∧ isRetry = true then .throw (sessionExpired world options)
  else
    let data ← readBody world options response
    return .body data

def requestInternalTask (isRetry : Bool) : HttpTask JsValue := do
  let headers ← buildHeaders world context options
  let timer ← setTimer (timeoutOf options)
  let result ← HttpTask.tryCatchFinally (tryBlock world context options isRetry headers timer)
    (fun error => do
      let data ← rethrow options error
      return .body data)
    (clearTimer timer)
  match result with
  | .body data => return data
  | .retried promise => retryRequestSettled world options promise

def request : HttpTask JsValue := requestInternalTask world context options false

end Effects

/-! ### What a run shows -/

section Runs

variable {world : HttpWorld} {context : Option RequestContext} {options : PortHttpRequest}

theorem bind_ok {α β : Type} {task : HttpTask α} {rest : α → HttpTask β} {log later : HttpLog}
    {value : α} (ended : task log = (.ok value, later)) :
    (task >>= rest) log = rest value later := by
  change HttpTask.bind task rest log = rest value later
  simp only [HttpTask.bind, ended]

theorem bind_error {α β : Type} {task : HttpTask α} {rest : α → HttpTask β} {log later : HttpLog}
    {error : HttpThrown} (ended : task log = (.error error, later)) :
    (task >>= rest) log = (.error error, later) := by
  change HttpTask.bind task rest log = (.error error, later)
  simp only [HttpTask.bind, ended]

theorem tryCatchFinally_ok {α : Type} {task : HttpTask α} {log later : HttpLog} {value : α}
    (ended : task log = (.ok value, later)) (handler : HttpThrown → HttpTask α)
    (cleanup : HttpLog → HttpLog) :
    HttpTask.tryCatchFinally task handler cleanup log = (.ok value, cleanup later) := by
  simp only [HttpTask.tryCatchFinally, ended]

theorem tryCatchFinally_error {α : Type} {task : HttpTask α} {log later : HttpLog}
    {error : HttpThrown} (ended : task log = (.error error, later))
    (handler : HttpThrown → HttpTask α) (cleanup : HttpLog → HttpLog) :
    HttpTask.tryCatchFinally task handler cleanup log =
      ((handler error later).1, cleanup (handler error later).2) := by
  simp only [HttpTask.tryCatchFinally, ended]

/-- An outcome as it leaves the client. -/
def thrown (outcome : Except Exn JsValue) : Except HttpThrown JsValue :=
  outcome.mapError HttpThrown.exn

/-- The tokens that are signed for the headers of the first request. -/
def firstTokens (world : HttpWorld) (context : Option RequestContext) : List String :=
  match userOf context with
  | none => []
  | some (present, userId) =>
      match (metadataOf present).field "signedJwt" with
      | .str _ => []
      | _ => [world.platform.sign (world.moments 0) (claims present userId)]

/-- The log when the headers are complete. -/
def signedLog (tokens : List String) : HttpLog :=
  ⟨tokens.map HttpEffect.signed, 0, tokens.length, 0⟩

theorem authorized_run : authorized world context .empty =
    (.ok (authorization world.platform (world.moments 0) context),
      signedLog (firstTokens world context)) := by
  unfold authorized authorization firstTokens
  cases user : userOf context with
  | none => rfl
  | some pair =>
      obtain ⟨present, userId⟩ := pair
      simp only
      generalize (metadataOf present).field "signedJwt" = cached
      cases cached <;> rfl

theorem buildHeaders_run : buildHeaders world context options .empty =
    (.ok (headersOf world.platform (world.moments 0) context options),
      signedLog (firstTokens world context)) := by
  unfold buildHeaders
  rw [bind_ok authorized_run]
  rfl

/-- The headers of the first request and the request. -/
def firstHeaders (world : HttpWorld) (context : Option RequestContext)
    (options : PortHttpRequest) : List (String × String) :=
  headersOf world.platform (world.moments 0) context options

def firstCall (world : HttpWorld) (context : Option RequestContext) (options : PortHttpRequest) :
    HttpCall :=
  callOf world.platform (firstHeaders world context options) options

/-- The token for the retry: the next one that is signed. -/
def retryToken (world : HttpWorld) (context : Option RequestContext) (present : RequestContext)
    (userId : String) : String :=
  world.platform.sign (world.moments (firstTokens world context).length) (claims present userId)

def secondCall (world : HttpWorld) (context : Option RequestContext) (options : PortHttpRequest)
    (token : String) : HttpCall :=
  callOf world.platform (withToken token (firstHeaders world context options)) options

theorem readBody_run (response : HttpResponse) (log : HttpLog) :
    readBody world options response log =
      (thrown (settleAnswer world.platform options
        (.response response.status response.statusText response.json)), log) := by
  unfold readBody settleAnswer
  by_cases bad : response.status < 200 ∨ 300 ≤ response.status
  · simp only [if_pos bad]
    rfl
  · simp only [if_neg bad]
    cases response.json <;> rfl

/-- An error that has passed the `catch` block is no `AbortError`. -/
theorem settleAnswer_response_error {status : Nat} {statusText : String} {json : Option JsValue}
    {error : HttpThrown} (failed : thrown (settleAnswer world.platform options
      (.response status statusText json)) = .error error) (log : HttpLog) :
    rethrow options error log = (.error error, log) := by
  cases error with
  | exn error => rfl
  | abortError =>
      cases settled : settleAnswer world.platform options (.response status statusText json) with
      | ok data => rw [settled] at failed; cases failed
      | error error => rw [settled] at failed; cases failed

theorem retryRequestSettled_run (promise : RetryPromise) (log : HttpLog) :
    retryRequestSettled world options promise log =
      (thrown (retryRequest world.platform options (world.answers promise.request)),
        clearTimer promise.timer log) := by
  unfold retryRequestSettled answerTo
  cases answer : world.answers promise.request with
  | aborted => rfl
  | failed message => rfl
  | response status statusText json =>
      change HttpTask.tryCatchFinally (if status = 401 then _ else _) _ _ log = _
      unfold retryRequest
      by_cases expired : status = 401
      · rw [if_pos expired]
        simp only [if_pos expired]
        rfl
      · rw [if_neg expired]
        simp only [if_neg expired]
        have read := @readBody_run world options
          ⟨status, statusText, json⟩ log
        cases settled : thrown (settleAnswer world.platform options
            (.response status statusText json)) with
        | ok data =>
            rw [settled] at read
            exact tryCatchFinally_ok read _ _
        | error error =>
            rw [settled] at read
            rw [tryCatchFinally_error read, settleAnswer_response_error settled]

/-- The first answer is a 401, and there is a user. -/
def Retries (world : HttpWorld) (context : Option RequestContext) : Prop :=
  (∃ statusText json, world.answers 0 = .response 401 statusText json) ∧
    (userOf context).isSome = true

/-- The log when the timer of the first request is set. -/
def armedLog (world : HttpWorld) (context : Option RequestContext) (options : PortHttpRequest) :
    HttpLog :=
  ⟨(firstTokens world context).map HttpEffect.signed ++ [.armed 0 (timeoutOf options)], 1,
    (firstTokens world context).length, 0⟩

/-- The effects up to the first request. -/
def opening (world : HttpWorld) (context : Option RequestContext) (options : PortHttpRequest) :
    List HttpEffect :=
  (armedLog world context options).effects ++ [.sent (firstCall world context options) 0]

/-- The log when the first request is under way. -/
def openedLog (world : HttpWorld) (context : Option RequestContext) (options : PortHttpRequest) :
    HttpLog :=
  ⟨opening world context options, 1, (firstTokens world context).length, 1⟩

/-- The effects of a retry up to its request. -/
def retryEffects (world : HttpWorld) (context : Option RequestContext) (options : PortHttpRequest)
    (token : String) : List HttpEffect :=
  [.signed token, .armed 1 (timeoutOf options), .sent (secondCall world context options token) 1]

theorem tryBlock_retried {present : RequestContext} {userId statusText : String}
    {json : Option JsValue} (expired : world.answers 0 = .response 401 statusText json)
    (user : userOf context = some (present, userId)) :
    tryBlock world context options false (firstHeaders world context options) 0
        (armedLog world context options) =
      (.ok (.retried ⟨1, 1⟩),
        ⟨opening world context options ++ retryEffects world context options
            (retryToken world context present userId), 2,
          (firstTokens world context).length + 1, 2⟩) := by
  have sent : send (callOf world.platform (firstHeaders world context options) options) 0
      (armedLog world context options) = (.ok 0, openedLog world context options) := rfl
  have answered : answerTo world 0 (openedLog world context options) =
      (.ok ⟨401, statusText, json⟩, openedLog world context options) := by
    unfold answerTo
    rw [expired]
    rfl
  have known : (userOf context).isSome = true := by rw [user]; rfl
  unfold tryBlock
  rw [bind_ok sent, bind_ok answered, if_pos ⟨rfl, rfl, known⟩]
  have renewed : newToken world context (firstHeaders world context options)
      (openedLog world context options) =
        (.ok (withToken (retryToken world context present userId)
            (firstHeaders world context options)),
          ⟨opening world context options ++ [.signed (retryToken world context present userId)], 1,
            (firstTokens world context).length + 1, 1⟩) := by
    unfold newToken
    rw [user]
    rfl
  rw [bind_ok renewed]
  have started : ∀ effects signatures, retryRequestStarted world options
      (withToken (retryToken world context present userId) (firstHeaders world context options))
      ⟨effects, 1, signatures, 1⟩ =
        (.ok ⟨1, 1⟩, ⟨effects ++ [.armed 1 (timeoutOf options)] ++
          [.sent (secondCall world context options (retryToken world context present userId)) 1],
            2, signatures, 2⟩) := fun _ _ => rfl
  rw [bind_ok (started _ _)]
  simp [retryEffects, HttpTask.done, pure]

theorem tryBlock_settled (once : ¬ Retries world context) :
    ∀ handled, tryBlock world context options false (firstHeaders world context options) 0
      (armedLog world context options) = handled →
    (∃ data, handled = (.ok (.body data), openedLog world context options) ∧
      settleAnswer world.platform options (world.answers 0) = .ok data) ∨
    ∃ error, handled = (.error error, openedLog world context options) ∧
      rethrow options error (openedLog world context options) =
        (thrown (settleAnswer world.platform options (world.answers 0)),
          openedLog world context options) := by
  intro handled ran
  have sent : send (callOf world.platform (firstHeaders world context options) options) 0
      (armedLog world context options) = (.ok 0, openedLog world context options) := rfl
  unfold tryBlock at ran
  rw [bind_ok sent] at ran
  cases answer : world.answers 0 with
  | aborted =>
      have failed : answerTo world 0 (openedLog world context options) =
          (.error .abortError, openedLog world context options) := by
        unfold answerTo
        rw [answer]
        rfl
      rw [bind_error failed] at ran
      exact Or.inr ⟨.abortError, ran.symm, rfl⟩
  | failed message =>
      have failed : answerTo world 0 (openedLog world context options) =
          (.error (.exn (.error message)), openedLog world context options) := by
        unfold answerTo
        rw [answer]
        rfl
      rw [bind_error failed] at ran
      exact Or.inr ⟨.exn (.error message), ran.symm, rfl⟩
  | response status statusText json =>
      have answered : answerTo world 0 (openedLog world context options) =
          (.ok ⟨status, statusText, json⟩, openedLog world context options) := by
        unfold answerTo
        rw [answer]
        rfl
      have single : ¬ (status = 401 ∧ false = false ∧ (userOf context).isSome = true) := by
        intro again
        exact once ⟨⟨statusText, json, by rw [answer, again.1]⟩, again.2.2⟩
      have fresh : ¬ (status = 401 ∧ false = true) := fun again => Bool.noConfusion again.2
      rw [bind_ok answered, if_neg single, if_neg fresh] at ran
      have read := @readBody_run world options ⟨status, statusText, json⟩
        (openedLog world context options)
      cases settled : settleAnswer world.platform options (.response status statusText json) with
      | ok data =>
          rw [settled] at read
          rw [bind_ok read] at ran
          exact Or.inl ⟨data, ran.symm, rfl⟩
      | error error =>
          rw [settled] at read
          rw [bind_error read] at ran
          exact Or.inr ⟨.exn error, ran.symm, rfl⟩

/-- The run with a retry. -/
theorem request_run_retried {present : RequestContext} {userId statusText : String}
    {json : Option JsValue} (expired : world.answers 0 = .response 401 statusText json)
    (user : userOf context = some (present, userId)) :
    ∃ log, request world context options .empty =
        (thrown (retryRequest world.platform options (world.answers 1)), log) ∧
      log.effects = opening world context options ++ retryEffects world context options
        (retryToken world context present userId) ++ [.cleared 0, .cleared 1] := by
  have block := @tryBlock_retried _ _ options _ _ _ _ expired user
  unfold request requestInternalTask
  rw [bind_ok buildHeaders_run]
  have armed : setTimer (timeoutOf options) (signedLog (firstTokens world context)) =
      (.ok 0, armedLog world context options) := rfl
  rw [bind_ok armed]
  have returned := tryCatchFinally_ok block (fun error => do
    let data ← rethrow options error
    return .body data) (clearTimer 0)
  refine ⟨_, (bind_ok returned).trans (retryRequestSettled_run _ _), ?_⟩
  simp [clearTimer]

/-- The run without one. -/
theorem request_run_once (once : ¬ Retries world context) :
    ∃ log, request world context options .empty =
        (thrown (settleAnswer world.platform options (world.answers 0)), log) ∧
      log.effects = opening world context options ++ [.cleared 0] := by
  unfold request requestInternalTask
  rw [bind_ok buildHeaders_run]
  have armed : setTimer (timeoutOf options) (signedLog (firstTokens world context)) =
      (.ok 0, armedLog world context options) := rfl
  rw [bind_ok armed]
  rcases @tryBlock_settled _ _ options once _ rfl with body | failure
  · obtain ⟨data, block, settled⟩ := body
    have returned := tryCatchFinally_ok block (fun error => do
      let data ← rethrow options error
      return .body data) (clearTimer 0)
    rw [settled]
    exact ⟨_, bind_ok returned, rfl⟩
  · obtain ⟨error, block, settled⟩ := failure
    cases outcome : thrown (settleAnswer world.platform options (world.answers 0)) with
    | ok data =>
        rw [outcome] at settled
        cases error with
        | abortError => cases settled
        | exn error => cases settled
    | error final =>
        rw [outcome] at settled
        have handled : (do
            let data ← rethrow options error
            return TryResult.body data) (openedLog world context options) =
              (.error final, openedLog world context options) := bind_error settled
        have returned := tryCatchFinally_error block (fun error => do
          let data ← rethrow options error
          return TryResult.body data) (clearTimer 0)
        rw [handled] at returned
        exact ⟨_, bind_error returned, rfl⟩

/-! ### The protocol -/

/-- The requests that a run has sent, in their order. -/
def sentCalls (effects : List HttpEffect) : List HttpCall := effects.filterMap HttpEffect.sent?

/-- The outcome that a final answer leads to; nothing is said about the texts of errors. -/
def FinalOutcome (world : HttpWorld) (options : PortHttpRequest) (answer : HttpAnswer)
    (outcome : Except HttpThrown JsValue) : Prop :=
  match answer with
  | .response status _ json =>
      if 200 ≤ status ∧ status < 300 then
        match json with
        | some data => outcome = .ok data
        | none => ∃ text, outcome = .error (.exn (.portDownstream options.portName 502 text
            (finalUrl world.platform options)))
      else ∃ text, outcome = .error (.exn (.portDownstream options.portName status text
        (finalUrl world.platform options)))
  | .aborted => outcome = .error (.exn (.portTimeout options.portName (timeoutOf options)))
  | .failed message => outcome = .error (.exn (.error message))

/-- The second request is the first one again, with a token that was signed in between. -/
def SentAgain (world : HttpWorld) (context : Option RequestContext) (effects : List HttpEffect)
    (first second : HttpCall) : Prop :=
  second.method = first.method ∧ second.url = first.url ∧ second.body = first.body ∧
    second.headers.lookup "x-idempotency-key" = first.headers.lookup "x-idempotency-key" ∧
    ∃ present userId moment before after token,
      userOf context = some (present, userId) ∧
      token = world.platform.sign moment (claims present userId) ∧
      effects = before ++ .signed token :: after ∧
      sentCalls before = [first] ∧ sentCalls after = [second] ∧
      second.headers.lookup "Authorization" = some ("Bearer " ++ token)

structure FollowsProtocol (world : HttpWorld) (context : Option RequestContext)
    (options : PortHttpRequest) (outcome : Except HttpThrown JsValue)
    (effects : List HttpEffect) : Prop where
  bounded : 0 < (sentCalls effects).length ∧ (sentCalls effects).length ≤ 2
  retries : (sentCalls effects).length = 2 ↔ Retries world context
  again : ∀ first second, sentCalls effects = [first, second] →
    SentAgain world context effects first second
  settles : FinalOutcome world options (world.answers ((sentCalls effects).length - 1)) outcome
  cleared : ∀ timer, timer ∈ effects.filterMap HttpEffect.armed? → .cleared timer ∈ effects

theorem finalOutcome_settleAnswer (answer : HttpAnswer) :
    FinalOutcome world options answer (thrown (settleAnswer world.platform options answer)) := by
  cases answer with
  | aborted => rfl
  | failed message => rfl
  | response status statusText json =>
      unfold FinalOutcome settleAnswer
      by_cases good : 200 ≤ status ∧ status < 300
      · have passed : ¬ (status < 200 ∨ 300 ≤ status) := by omega
        simp only [if_pos good, if_neg passed]
        cases json with
        | none => exact ⟨_, rfl⟩
        | some data => rfl
      · have refused : status < 200 ∨ 300 ≤ status := by omega
        simp only [if_neg good, if_pos refused]
        exact ⟨_, rfl⟩

theorem finalOutcome_retryRequest (answer : HttpAnswer) :
    FinalOutcome world options answer (thrown (retryRequest world.platform options answer)) := by
  cases answer with
  | aborted => rfl
  | failed message => rfl
  | response status statusText json =>
      unfold retryRequest
      by_cases expired : status = 401
      · simp only [if_pos expired]
        subst expired
        exact ⟨_, rfl⟩
      · simp only [if_neg expired]
        exact finalOutcome_settleAnswer _

theorem lookup_withToken {name : String} (other : name ≠ "Authorization") (jwt : String)
    (headers : List (String × String)) :
    (withToken jwt headers).lookup name = headers.lookup name := by
  unfold withToken
  induction headers with
  | nil => rfl
  | cons header rest ih =>
      obtain ⟨title, text⟩ := header
      by_cases token : title = "Authorization"
      · simp [List.lookup_cons, token, ih, beq_false_of_ne other]
      · simp [List.lookup_cons, token, ih]

theorem sentCalls_signed (tokens : List String) :
    sentCalls (tokens.map HttpEffect.signed) = [] := by
  induction tokens with
  | nil => rfl
  | cons token rest ih => exact ih

theorem sentCalls_append (early late : List HttpEffect) :
    sentCalls (early ++ late) = sentCalls early ++ sentCalls late :=
  List.filterMap_append

theorem sentCalls_opening :
    sentCalls (opening world context options) = [firstCall world context options] := by
  unfold opening armedLog
  rw [sentCalls_append, sentCalls_append, sentCalls_signed]
  rfl

theorem lookup_authorization {present : RequestContext} {userId : String} (jwt : String)
    (user : userOf context = some (present, userId)) :
    (withToken jwt (firstHeaders world context options)).lookup "Authorization" =
      some ("Bearer " ++ jwt) := by
  unfold firstHeaders headersOf authorization withToken
  rw [user]
  simp only
  generalize (metadataOf present).field "signedJwt" = cached
  cases cached <;> simp [List.lookup_cons]

end Runs

end PortHttpClient

end SelfService
