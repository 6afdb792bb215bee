/-
Exceptions and their HTTP answers.

`Exn` lists what a call can reject with: the port exceptions, the exceptions of
the core library that extend `BaseException`, Nest's own `HttpException`, and
plain errors.  `answerStatus` is the status code `GlobalExceptionFilter` sends.
-/

import SelfService.Core.JsValue

namespace SelfService

/-- The subclasses of `BaseException` outside the port infrastructure. -/
inductive BaseKind
  | notFound | unauthorized | forbidden | conflict | lockout | concurrency | validation
  deriving DecidableEq, Repr

inductive Exn : Type
  | portDownstream (portName : String) (statusCode : Int) (statusText url : String)
  | portTimeout (portName : String) (timeout : Nat)
  | portNotRegistered (portName : String)
  | portFallbackMiss (portName : String)
  /-- A `PortFallbackException` with the original error as `cause`. -/
  | portFallback (portName : String) (cause : Exn)
  | portQueued (portName jobId : String)
  | base (kind : BaseKind) (message code : String) (details : JsValue)
  /-- The `DomainException`, which extends `Error` directly. -/
  | domain (message code : String)
  | http (status : Int) (response : JsValue)
  | error (message : String)
  deriving DecidableEq, Repr

namespace Exn

def notFound (message : String) (code : String) (details : JsValue) : Exn :=
  .base .notFound message code details

def forbidden (message : String) : Exn := .base .forbidden message "FORBIDDEN" .undefined

def conflict (message code : String) (details : JsValue) : Exn :=
  .base .conflict message code details

/-- From `new ValidationException(text)`: a plain text leaves the details empty. -/
def validation (message : String) : Exn :=
  .base .validation message "VALIDATION_ERROR" .undefined

def lockout (reason : String) (retryAfterSec : Nat) : Exn :=
  .base .lockout "Đã vượt số lần thử cho phép. Vui lòng thử lại sau." "BINDING_LOCKED"
    (.obj [("reason", .str reason), ("retryAfterSec", .num retryAfterSec)])

def message : Exn → String
  | .portDownstream portName statusCode statusText _ =>
      "Downstream call failed [" ++ portName ++ "]: " ++ toString statusCode ++ " " ++ statusText
  | .portTimeout portName timeout =>
      "Request timeout [" ++ portName ++ "] after " ++ toString timeout ++ "ms"
  | .portNotRegistered portName => "Port not registered: " ++ portName
  | .portFallbackMiss portName =>
      "Port fallback failed [" ++ portName ++ "]: no cached fallback available"
  | .portFallback portName cause =>
      "Port call and fallback both failed [" ++ portName ++ "]: " ++ cause.message
  | .portQueued portName jobId =>
      "Request queued for retry [" ++ portName ++ "]: jobId=" ++ jobId
  | .base _ message _ _ => message
  | .domain message _ => message
  | .http _ _ => "Http Exception"
  | .error message => message

/-- An error that blames the caller: a 4xx of the downstream, or the not-found and
validation exceptions of the owner-scoped adapters. -/
def isCallerError : Exn → Bool
  | .portDownstream _ statusCode _ _ => 400 ≤ statusCode && statusCode < 500
  | .base .notFound _ _ _ | .base .validation _ _ _ => true
  | _ => false

/-- The filter's `getHttpStatus`, asked for `BaseException`s only. -/
def getHttpStatus : Exn → Int
  | .portDownstream _ statusCode _ _ => if statusCode ≥ 500 then 502 else statusCode
  | .portTimeout _ _ => 504
  | .portNotRegistered _ => 500
  | .base .notFound _ _ _ => 404
  | .base .unauthorized _ _ _ => 401
  | .base .forbidden _ _ _ => 403
  | .base .conflict _ _ _ => 409
  | .base .lockout _ _ _ => 429
  | .base .concurrency _ _ _ => 409
  | .base .validation _ _ _ => 400
  | _ => 500

/-- The status code of `GlobalExceptionFilter.catch`. -/
def answerStatus : Exn → Int
  | .http status _ => status
  | .portQueued _ _ => 202
  | .domain _ _ | .error _ => 500
  | exception => exception.getHttpStatus

/-- Left alone, a caller error reaches the client as a 4xx. -/
theorem answerStatus_of_isCallerError (exception : Exn) (caller : exception.isCallerError = true) :
    400 ≤ exception.answerStatus ∧ exception.answerStatus < 500 := by
  cases exception with
  | portDownstream portName statusCode statusText url =>
      simp only [isCallerError, Bool.and_eq_true, decide_eq_true_eq] at caller
      have below : ¬ statusCode ≥ 500 := by omega
      simp only [answerStatus, getHttpStatus, if_neg below]
      exact caller
  | base kind message code details =>
      cases kind <;> simp [isCallerError] at caller <;> simp [answerStatus, getHttpStatus]
  | _ => simp [isCallerError] at caller

/-- Wrapped by the fallback, every error becomes a 500. -/
theorem answerStatus_portFallback (portName : String) (cause : Exn) :
    (Exn.portFallback portName cause).answerStatus = 500 := rfl

end Exn

end SelfService
