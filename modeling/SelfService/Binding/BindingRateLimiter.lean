/-
The lockout of the bind challenge.

Three ceilings count failed attempts, each in a counter that lives in the cache
as `{ count, since }` and is read, increased and written back; a counter that
reaches its limit becomes a lock.
-/

import SelfService.Binding.BindingProcess

namespace SelfService

open Data EventLoop

inductive LockReason : Type
  | userRef
  | customerRef
  | session
  deriving DecidableEq, Repr

def LockReason.text : LockReason → String
  | .userRef => "user_ref"
  | .customerRef => "customer_ref"
  | .session => "session"

structure LockState where
  locked : Bool
  reason : Option LockReason
  retryAfterSec : Option Nat
  deriving DecidableEq

structure FailureOutcome where
  lockedNow : Bool
  reason : Option LockReason
  retryAfterSec : Option Nat
  deriving DecidableEq

/-- Where a ceiling keeps its counter and its lock, and when it locks for how long. -/
structure Ceiling where
  failKey : String
  lockKey : String
  limit : Nat
  windowSec : Nat
  lockSec : Nat

namespace BindingRateLimiter

variable {client : CustomerServiceClient}

def USER_REF_LIMIT : Nat := 3

def USER_REF_WINDOW_SEC : Nat := 15 * 60

def CUSTOMER_REF_LIMIT : Nat := 10

def CUSTOMER_REF_WINDOW_SEC : Nat := 60 * 60

def CUSTOMER_REF_LOCK_SEC : Nat := 24 * 60 * 60

def USER_TOTAL_LIMIT : Nat := 5

def USER_TOTAL_WINDOW_SEC : Nat := 15 * 60

def USER_TOTAL_LOCK_SEC : Nat := 15 * 60

/-! ### Keys -/

def userFailKey (userId customerRef : String) : String :=
  "bind:fail:user:" ++ userId ++ ":" ++ customerRef

def userLockKey (userId customerRef : String) : String :=
  "bind:lock:user:" ++ userId ++ ":" ++ customerRef

def custFailKey (customerRef : String) : String := "bind:fail:cust:" ++ customerRef

def custLockKey (customerRef : String) : String := "bind:lock:cust:" ++ customerRef

def userTotalFailKey (userId : String) : String := "bind:fail:user_total:" ++ userId

def userTotalLockKey (userId : String) : String := "bind:lock:user_total:" ++ userId

def userRefCeiling (userId customerRef : String) : Ceiling where
  failKey := userFailKey userId customerRef
  lockKey := userLockKey userId customerRef
  limit := USER_REF_LIMIT
  windowSec := USER_REF_WINDOW_SEC
  lockSec := USER_REF_WINDOW_SEC

def customerCeiling (customerRef : String) : Ceiling where
  failKey := custFailKey customerRef
  lockKey := custLockKey customerRef
  limit := CUSTOMER_REF_LIMIT
  windowSec := CUSTOMER_REF_WINDOW_SEC
  lockSec := CUSTOMER_REF_LOCK_SEC

def userTotalCeiling (userId : String) : Ceiling where
  failKey := userTotalFailKey userId
  lockKey := userTotalLockKey userId
  limit := USER_TOTAL_LIMIT
  windowSec := USER_TOTAL_WINDOW_SEC
  lockSec := USER_TOTAL_LOCK_SEC

/-! ### Counters -/

def counter (count since : JsValue) : JsValue := .obj [("count", count), ("since", since)]

/-- Whether `entry && now - entry.since < windowSec * 1000`; anything but a number is `NaN`, and
no number compares with it. -/
def running (now windowSec : Nat) (entry : JsValue) : Bool :=
  match entry.field "since" with
  | .num since => entry.truthy && (now : Rat) - since < ((windowSec * 1000 : Nat) : Rat)
  | _ => false

/-- Computes `count + 1`; `null` stands for `NaN`. -/
def increased : JsValue → JsValue
  | .num count => .num (count + 1)
  | _ => .null

def reaches (limit : Nat) : JsValue → Bool
  | .num count => (limit : Rat) ≤ count
  | _ => false

/-- What a bump writes back over the entry it read. -/
def bumped (now windowSec : Nat) (entry : JsValue) : JsValue :=
  if running now windowSec entry then
    counter (increased (entry.field "count")) (entry.field "since")
  else counter (.num 1) (.num now)

/-- The clock is read before the counter is. -/
def bump (key : String) (windowSec : Nat) : BindingTask client JsValue := do
  let world ← Task.read
  Task.note (.inr (.counts key))
  let entry ← CacheService.get key
  let next := bumped world.now windowSec entry
  CacheService.set key next (some windowSec)
  return next.field "count"

/-- One ceiling of `recordFailure`: whether this failure armed its lock. -/
def strike (ceiling : Ceiling) : BindingTask client Bool := do
  let count ← bump ceiling.failKey ceiling.windowSec
  if reaches ceiling.limit count then
    CacheService.set ceiling.lockKey (.num 1) (some ceiling.lockSec)
    CacheService.delete ceiling.failKey
    return true
  else return false

/-- The strongest ceiling that armed. -/
def strongest (userRefArmed customerArmed sessionArmed : Bool) : FailureOutcome :=
  if sessionArmed then ⟨true, some .session, some USER_TOTAL_LOCK_SEC⟩
  else if customerArmed then ⟨true, some .customerRef, some CUSTOMER_REF_LOCK_SEC⟩
  else if userRefArmed then ⟨true, some .userRef, some USER_REF_WINDOW_SEC⟩
  else ⟨false, none, none⟩

/-! ### The service -/

def ttlSec (key : String) : BindingTask client Nat := do
  let seconds ← CacheService.ttl key
  return seconds.toNat

/-- A lock is a truthy entry; `otherwise` goes on when there is none. -/
def checkLock (key : String) (reason : LockReason) (otherwise : BindingTask client LockState) :
    BindingTask client LockState := do
  let entry ← CacheService.get key
  if entry.truthy then
    let seconds ← ttlSec key
    return ⟨true, some reason, some seconds⟩
  else otherwise

def checkLocked (userId customerRef : String) : BindingTask client LockState :=
  checkLock (userTotalLockKey userId) .session
    (checkLock (userLockKey userId customerRef) .userRef
      (checkLock (custLockKey customerRef) .customerRef (.done ⟨false, none, none⟩)))

def recordFailure (userId customerRef : String) : BindingTask client FailureOutcome := do
  let userRefArmed ← strike (userRefCeiling userId customerRef)
  let customerArmed ← strike (customerCeiling customerRef)
  let sessionArmed ← strike (userTotalCeiling userId)
  return strongest userRefArmed customerArmed sessionArmed

/-- The counter of the reference alone is kept. -/
def clearFailures (userId customerRef : String) : BindingTask client Unit := do
  CacheService.delete (userFailKey userId customerRef)
  CacheService.delete (userTotalFailKey userId)

end BindingRateLimiter

end SelfService
