/-
The circuit breaker of a port.

Time is passed in as `now`, in milliseconds.  Rates are exact rationals in
percent.
-/

import SelfService.Core.Exceptions

namespace SelfService

inductive CircuitState : Type
  | closed
  | open
  | halfOpen
  deriving DecidableEq, Repr

/-- Absent options take the defaults that the methods write as `||`. -/
structure CircuitBreakerOptions where
  errorThreshold : Nat
  resetTimeout : Nat
  minRequests : Nat
  timeout : Nat
  name : String
  deriving DecidableEq, Repr

/-- Computes `value || fallback` for a number. -/
def orDefault (value fallback : Nat) : Nat := if value = 0 then fallback else value

structure CircuitBreakerState where
  options : CircuitBreakerOptions
  state : CircuitState
  stateChangedAt : Nat
  requests : Nat
  failures : Nat
  lastFailureTime : Nat
  successCount : Nat
  failureCount : Nat
  deriving DecidableEq, Repr

structure CircuitBreakerMetrics where
  requests : Nat
  failures : Nat
  successRate : Rat
  failureRate : Rat
  deriving DecidableEq, Repr

namespace CircuitBreakerState

def new (options : CircuitBreakerOptions) (now : Nat) : CircuitBreakerState where
  options := options
  state := .closed
  stateChangedAt := now
  requests := 0
  failures := 0
  lastFailureTime := 0
  successCount := 0
  failureCount := 0

def resetMetrics (breaker : CircuitBreakerState) : CircuitBreakerState :=
  { breaker with
    requests := 0
    failures := 0
    successCount := 0
    failureCount := 0
    lastFailureTime := 0 }

def getSuccessRate (breaker : CircuitBreakerState) : Rat :=
  if breaker.requests = 0 then 100
  else ((breaker.requests : Rat) - breaker.failures) / breaker.requests * 100

def getFailureRate (breaker : CircuitBreakerState) : Rat :=
  if breaker.requests = 0 then 0 else (breaker.failures : Rat) / breaker.requests * 100

def getMetrics (breaker : CircuitBreakerState) : CircuitBreakerMetrics where
  requests := breaker.requests
  failures := breaker.failures
  successRate := breaker.getSuccessRate
  failureRate := breaker.getFailureRate

def «open» (now : Nat) (breaker : CircuitBreakerState) : CircuitBreakerState :=
  { breaker with state := .open, stateChangedAt := now }

def close (now : Nat) (breaker : CircuitBreakerState) : CircuitBreakerState :=
  { breaker.resetMetrics with state := .closed, stateChangedAt := now }

def halfOpen (now : Nat) (breaker : CircuitBreakerState) : CircuitBreakerState :=
  { breaker.resetMetrics with state := .halfOpen, stateChangedAt := now }

def reset (now : Nat) (breaker : CircuitBreakerState) : CircuitBreakerState :=
  { breaker.resetMetrics with state := .closed, stateChangedAt := now }

/-- A window longer than `timeout` ends here: the counters fall back to what was
counted since the last reset, and the window starts anew. -/
def cleanupOldRequests (now : Nat) (breaker : CircuitBreakerState) : CircuitBreakerState :=
  if orDefault breaker.options.timeout 60000 < now - breaker.stateChangedAt then
    { breaker with
      requests := breaker.successCount
      failures := breaker.failureCount
      stateChangedAt := now }
  else breaker

def recordSuccess (now : Nat) (breaker : CircuitBreakerState) : CircuitBreakerState :=
  let counted := { breaker with
    requests := breaker.requests + 1
    successCount := breaker.successCount + 1 }
  let moved := if counted.state = .halfOpen then counted.close now else counted
  moved.cleanupOldRequests now

/-- The error filter of the port registry: a downstream answer below 500 is not
the fault of the downstream. -/
def isInfrastructureError : Exn → Bool
  | .portDownstream _ statusCode _ _ => 500 ≤ statusCode
  | _ => true

def recordFailure (now : Nat) (error : Exn) (breaker : CircuitBreakerState) :
    CircuitBreakerState :=
  if isInfrastructureError error then
    let counted := { breaker with
      requests := breaker.requests + 1
      failures := breaker.failures + 1
      failureCount := breaker.failureCount + 1
      lastFailureTime := now }
    let moved := if counted.state = .halfOpen then counted.open now else counted
    moved.cleanupOldRequests now
  else breaker

def shouldOpen (breaker : CircuitBreakerState) : Bool :=
  breaker.state ≠ .open && orDefault breaker.options.minRequests 10 ≤ breaker.requests &&
    (orDefault breaker.options.errorThreshold 50 : Rat) ≤ breaker.getFailureRate

def shouldAttemptReset (now : Nat) (breaker : CircuitBreakerState) : Bool :=
  breaker.state = .open &&
    orDefault breaker.options.resetTimeout 30000 ≤ now - breaker.stateChangedAt

end CircuitBreakerState

end SelfService
