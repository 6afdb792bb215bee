/-
The tables of the binding module.

`customer_bindings` has a primary key and at most one verified row for a user
and a reference.  A query without an order may answer any row that matches.  A
failed write may or may not have taken effect.
-/

import SelfService.Binding.CustomerServiceClient
import SelfService.Caching.RedisCacheService

namespace SelfService

open Data

inductive BindingStatus : Type
  | pending
  | verified
  | revoked
  deriving DecidableEq, Repr

structure CustomerBinding where
  userId : String
  customerRef : String
  customerId : Option String
  status : BindingStatus
  factorUsed : Option String
  verifiedAt : Option Nat
  deviceInfo : Option String
  boundAt : Option Nat
  revokedAt : Option Nat
  revokedReason : Option String
  updatedAt : Nat
  deriving DecidableEq

/-- What `upsertVerified` writes besides the user and the reference. -/
structure VerifiedValues where
  encCustomerId : Option String
  factorUsed : String
  deviceInfo : Option String
  now : Nat
  deriving DecidableEq

/-- What the update sets: the row is verified anew. -/
def VerifiedValues.update (values : VerifiedValues) (row : CustomerBinding) : CustomerBinding :=
  { row with
    customerId := values.encCustomerId
    status := .verified
    factorUsed := some values.factorUsed
    verifiedAt := some values.now
    boundAt := some values.now
    deviceInfo := values.deviceInfo
    revokedAt := none
    revokedReason := none
    updatedAt := values.now }

/-- The row of the insert. -/
def VerifiedValues.row (values : VerifiedValues) (userId customerRef : String) :
    CustomerBinding where
  userId := userId
  customerRef := customerRef
  customerId := values.encCustomerId
  status := .verified
  factorUsed := some values.factorUsed
  verifiedAt := some values.now
  deviceInfo := values.deviceInfo
  boundAt := some values.now
  revokedAt := none
  revokedReason := none
  updatedAt := values.now

inductive BindingAuditAction : Type
  | challengeAttempt
  | bind
  | unbind
  | reverify
  | register
  | lockout
  deriving DecidableEq, Repr

structure BindingAuditEntry where
  userId : String
  customerRef : Option String
  action : BindingAuditAction
  success : Bool
  detail : Option String
  ip : Option String
  deviceInfo : Option String
  deriving DecidableEq

/-- What `GET /auth/me` reads off the user row. -/
structure UserIdentity where
  fullName : Option String
  cccd : Option String
  profileStatus : Option String
  deriving DecidableEq

inductive BindingRequest : Type
  | selectPhone (userId : String)
  | selectIdentity (userId : String)
  | selectBinding (userId customerRef : String)
  | selectVerified (userId : String)
  | updateBinding (id : String) (values : VerifiedValues)
  | insertBinding (id userId customerRef : String) (values : VerifiedValues)
  | insertAudit (entry : BindingAuditEntry)
  | client (request : ClientRequest)
  deriving DecidableEq

abbrev BindingRequest.Answer : BindingRequest → Type
  | .selectPhone _ => Reply (Option String)
  | .selectIdentity _ => Reply (Option UserIdentity)
  | .selectBinding _ _ => Reply (Option String)
  | .selectVerified _ => Reply (Option CustomerBinding)
  | .updateBinding _ _ => Reply Unit
  | .insertBinding _ _ _ _ => Reply Unit
  | .insertAudit _ => Reply Unit
  | .client request => request.Answer

abbrev Bindings := OrderedMap String CustomerBinding

namespace Bindings

def isOf (userId customerRef : String) (row : CustomerBinding) : Bool :=
  row.userId = userId && row.customerRef = customerRef

def isVerifiedOf (userId : String) (row : CustomerBinding) : Bool :=
  row.userId = userId && row.status = .verified

/-- The column widths of the table. -/
def fits (id : String) (row : CustomerBinding) : Bool :=
  id.length ≤ 36 && row.userId.length ≤ 256 && row.customerRef.length ≤ 128 &&
    row.customerId.all (fun text => text.length ≤ 512) &&
    row.factorUsed.all (fun text => text.length ≤ 50) &&
    row.deviceInfo.all (fun text => text.length ≤ 512)

/-- Another row is verified for the same user and reference. -/
def taken (bindings : Bindings) (id : String) (row : CustomerBinding) : Bool :=
  bindings.entries.any fun entry =>
    entry.1 ≠ id && isOf row.userId row.customerRef entry.2 && entry.2.status = .verified

/-- A verified row as an insert or an update leaves it, if the table takes it. -/
def write (bindings : Bindings) (id : String) (row : CustomerBinding) : Option Bindings :=
  if fits id row && !taken bindings id row then some (bindings.set id row) else none

/-- An update of a missing row changes nothing. -/
def update (bindings : Bindings) (id : String) (values : VerifiedValues) : Option Bindings :=
  match bindings.get? id with
  | none => some bindings
  | some row => bindings.write id (values.update row)

def insert (bindings : Bindings) (id userId customerRef : String) (values : VerifiedValues) :
    Option Bindings :=
  if bindings.contains id then none else bindings.write id (values.row userId customerRef)

end Bindings

/-- What a write leaves behind, given what it does when it takes effect. -/
def Reply.commit {α : Type} (reply : Reply Unit) (before : α) (effect : Option α) : Option α :=
  match reply with
  | .ok _ => effect
  | .failed applied _ => if applied then effect else some before

structure BindingState (client : CustomerServiceClient) where
  bindings : Bindings
  audit : List BindingAuditEntry
  customers : client.State

variable {client : CustomerServiceClient}

/-- How a request of the binding module may be answered.  The user table belongs to the
identity library, which may change it at any time: any answer may come. -/
def performBinding (state : BindingState client) :
    (request : BindingRequest) → request.Answer → Option (BindingState client)
  | .selectPhone _, _ => some state
  | .selectIdentity _, _ => some state
  | .selectBinding userId customerRef, .ok (some id) =>
      if (state.bindings.get? id).any (Bindings.isOf userId customerRef) then some state else none
  | .selectBinding userId customerRef, .ok none =>
      if state.bindings.entries.any fun entry => Bindings.isOf userId customerRef entry.2 then none
      else some state
  | .selectBinding _ _, .failed _ _ => some state
  | .selectVerified userId, .ok (some row) =>
      if Bindings.isVerifiedOf userId row && state.bindings.entries.any fun entry => entry.2 = row
      then some state else none
  | .selectVerified userId, .ok none =>
      if state.bindings.entries.any fun entry => Bindings.isVerifiedOf userId entry.2 then none
      else some state
  | .selectVerified _, .failed _ _ => some state
  | .updateBinding id values, reply =>
      (reply.commit state.bindings (state.bindings.update id values)).map fun bindings =>
        { state with bindings := bindings }
  | .insertBinding id userId customerRef values, reply =>
      (reply.commit state.bindings
        (state.bindings.insert id userId customerRef values)).map fun bindings =>
          { state with bindings := bindings }
  | .insertAudit entry, reply =>
      (reply.commit state.audit (some (state.audit ++ [entry]))).map fun audit =>
        { state with audit := audit }
  | .client request, answer =>
      (client.answer state.customers request answer).map fun customers =>
        { state with customers := customers }

end SelfService
