/-
Binding a user to a customer.

`bindInit` resolves the phone of the session and keeps the result for five
minutes; `bind` accepts a reference of that result whose secret the customer
service verifies; `bindRegister` creates a customer that did not exist.  Both
end in a verified row whose customer id is encrypted.
-/

import SelfService.Binding.BindingRateLimiter

namespace SelfService

open Data EventLoop

structure BindResult where
  bound : Bool
  customerId : Option String
  deriving DecidableEq

def BindResult.toJs (result : BindResult) : JsValue :=
  .obj ([("bound", .bool result.bound)] ++
    optionalField "customerId" (result.customerId.map .str))

namespace BindingService

variable {client : CustomerServiceClient}

def INIT_TTL_SEC : Nat := 5 * 60

def BINDING_CACHE_TTL_SEC : Nat := 60 * 60

def initKey (sessionId : String) : String := "bind:init:" ++ sessionId

def bindKey (userId : String) : String := "bind:" ++ userId

/-! ### Helpers -/

/-- A failed insert is logged and forgotten. -/
def writeAudit (entry : BindingAuditEntry) : BindingTask client Unit := do
  let _ ← (BindingAuditRepository.record entry : BindingTask client Unit).attempt
  return ()

/-- An empty phone counts as none, as it does for the callers. -/
def getSessionPhone (userId : String) : BindingTask client (Option String) :=
  .await (.inr (.selectPhone userId)) fun
    | .ok phone => .done (phone.filter fun text => text ≠ "")
    | .failed _ reason => .fail (.error reason)

/-- The `customerRef` of every item; an item that is `null` or `undefined` throws. -/
def candidateRefs : List JsValue → Except Exn (List JsValue)
  | [] => .ok []
  | item :: rest =>
      if item.isNullish then
        .error (.error "TypeError: Cannot read properties of undefined (reading 'customerRef')")
      else (candidateRefs rest).map fun refs => item.field "customerRef" :: refs

/-- What the cache held under the session's key is read as a resolve result. -/
def allowedRefs (init : JsValue) : Except Exn (List JsValue) :=
  if init.field "status" = .str "one" then
    .ok (if (init.field "customerRef").truthy then [init.field "customerRef"] else [])
  else if init.field "status" = .str "many" then
    match init.field "candidates" with
    | .undefined | .null => .ok []
    | .arr items => candidateRefs items
    | _ => .error (.error "TypeError: (init.candidates ?? []).map is not a function")
  else .ok []

def upsertVerified (userId customerRef : String) (values : VerifiedValues) (rowId : String) :
    BindingTask client Unit :=
  .await (.inr (.selectBinding userId customerRef)) fun
    | .failed _ reason => .fail (.error reason)
    | .ok (some id) => .await (.inr (.updateBinding id values)) fun reply => ofReply reply
    | .ok none =>
        .await (.inr (.insertBinding rowId userId customerRef values)) fun reply => ofReply reply

/-- What is kept for the guard: the ciphertext, never the id. -/
def bindingEntry (encCustomerId : Option String) (customerRef : String) (verifiedAt : JsValue)
    (deviceInfo : Option String) : JsValue :=
  .obj [("customerIdCipher", (encCustomerId.map JsValue.str).getD .null),
    ("customerRef", .str customerRef), ("verifiedAt", verifiedAt),
    ("deviceInfo", (deviceInfo.map JsValue.str).getD .null)]

/-- A failed write is logged and forgotten. -/
def warm (userId customerRef : String) (values : VerifiedValues) : BindingTask client Unit := do
  let _ ← (CacheService.set (bindKey userId)
    (bindingEntry values.encCustomerId customerRef (.date values.now) values.deviceInfo)
    (some BINDING_CACHE_TTL_SEC) : BindingTask client Unit).attempt
  return ()

/-! ### bindInit -/

def resolveDetail (result : ResolveResult) : String :=
  "resolve:" ++ result.status.text ++
    (match result.candidates with
      | some candidates => " N=" ++ toString candidates.length
      | none => "") ++
    (if result.capped.getD false then " capped" else "")

def bindInit (userId sessionId : String) (deviceInfo ip : Option String) :
    BindingTask client ResolveResult := do
  match ← getSessionPhone userId with
  | none => return .bare .none
  | some phone =>
      let result ← CustomerServiceClient.resolve phone
      writeAudit
        { userId := userId
          customerRef := if result.status = .one then result.customerRef else none
          action := .challengeAttempt
          success := true
          detail := some (resolveDetail result)
          ip := ip
          deviceInfo := deviceInfo }
      CacheService.set (initKey sessionId) result.toJs (some INIT_TTL_SEC)
      return result

/-! ### bind -/

/-- The audit row of an attempt that ended here. -/
def attempt (userId : String) (body : BindBody) (deviceInfo ip : Option String)
    (action : BindingAuditAction) (success : Bool) (detail : String) : BindingAuditEntry where
  userId := userId
  customerRef := some body.customerRef
  action := action
  success := success
  detail := some detail
  ip := ip
  deviceInfo := deviceInfo

/-- The secret was wrong. -/
def refuse (userId : String) (body : BindBody) (deviceInfo ip : Option String) :
    BindingTask client BindResult := do
  let fail ← BindingRateLimiter.recordFailure userId body.customerRef
  let reason := (fail.reason.getD .userRef).text
  let retryAfterSec := fail.retryAfterSec.getD 900
  if fail.lockedNow then
    writeAudit (attempt userId body deviceInfo ip .lockout false
      ("lockout:" ++ reason ++ " retrySec:" ++ toString retryAfterSec))
    .fail (.lockout reason retryAfterSec)
  else
    writeAudit (attempt userId body deviceInfo ip .bind false "verify_failed")
    return ⟨false, none⟩

/-- The secret was right. -/
def complete (aes : AesGcm) (userId sessionId : String) (body : BindBody)
    (deviceInfo ip : Option String) (draws : Draws) : BindingTask client BindResult := do
  let profile ← CustomerServiceClient.profile body.customerRef
  let world ← Task.read
  let values : VerifiedValues :=
    { encCustomerId := PiiEncryptionService.encryptIfNeeded aes draws.iv (some profile.customerId)
      factorUsed := body.secretType.text
      deviceInfo := deviceInfo
      now := world.now }
  upsertVerified userId body.customerRef values draws.rowId
  BindingRateLimiter.clearFailures userId body.customerRef
  CacheService.delete (initKey sessionId)
  writeAudit (attempt userId body deviceInfo ip .bind true ("factor:" ++ body.secretType.text))
  warm userId body.customerRef values
  return ⟨true, some profile.customerId⟩

/-- The challenge for a reference that this session may bind. -/
def challenge (aes : AesGcm) (userId sessionId : String) (body : BindBody)
    (deviceInfo ip : Option String) (draws : Draws) : BindingTask client BindResult := do
  let lock ← BindingRateLimiter.checkLocked userId body.customerRef
  if lock.locked then
    let reason := (lock.reason.getD .userRef).text
    writeAudit (attempt userId body deviceInfo ip .lockout false ("lockout_hit:" ++ reason))
    .fail (.lockout reason (lock.retryAfterSec.getD 900))
  else
    let verdict ← CustomerServiceClient.verify
      ⟨body.customerRef, body.secretType, body.secretValue⟩
    if verdict.verified then complete aes userId sessionId body deviceInfo ip draws
    else refuse userId body deviceInfo ip

def bind (aes : AesGcm) (userId sessionId : String) (body : BindBody)
    (deviceInfo ip : Option String) (draws : Draws) : BindingTask client BindResult := do
  let init ← CacheService.get (initKey sessionId)
  if init.truthy then
    match allowedRefs init with
    | .error error => .fail error
    | .ok refs =>
        if .str body.customerRef ∈ refs then challenge aes userId sessionId body deviceInfo ip draws
        else
          writeAudit (attempt userId body deviceInfo ip .bind false "foreign_ref_rejected")
          .fail (.validation "Khách hàng không hợp lệ cho phiên này.")
  else
    writeAudit (attempt userId body deviceInfo ip .bind false "init_expired")
    .fail (.validation "Phiên liên kết hết hạn hoặc chưa bắt đầu. Vui lòng thử lại.")

/-! ### bindRegister -/

/-- The audit row of a registration. -/
def registration (userId : String) (customerRef : Option String) (deviceInfo ip : Option String)
    (success : Bool) (detail : String) : BindingAuditEntry where
  userId := userId
  customerRef := customerRef
  action := .register
  success := success
  detail := some detail
  ip := ip
  deviceInfo := deviceInfo

/-- The customer was created: creation is proof. -/
def register (aes : AesGcm) (userId sessionId : String) (created : CreateCustomerResult)
    (deviceInfo ip : Option String) (draws : Draws) : BindingTask client BindResult := do
  let world ← Task.read
  let values : VerifiedValues :=
    { encCustomerId := PiiEncryptionService.encryptIfNeeded aes draws.iv (some created.customerId)
      factorUsed := "self_registration"
      deviceInfo := deviceInfo
      now := world.now }
  upsertVerified userId created.customerRef values draws.rowId
  CacheService.delete (initKey sessionId)
  writeAudit (registration userId (some created.customerRef) deviceInfo ip true
    "factor:self_registration")
  warm userId created.customerRef values
  return ⟨true, some created.customerId⟩

def bindRegister (aes : AesGcm) (userId sessionId : String) (profile : CreateCustomerRequest)
    (deviceInfo ip : Option String) (draws : Draws) : BindingTask client BindResult := do
  match ← getSessionPhone userId with
  | none => .fail (.validation "Không có số điện thoại đã xác thực trên phiên để đăng ký.")
  | some phone =>
      let resolve ← CustomerServiceClient.resolve phone
      if resolve.status = .none then
        match ← (CustomerServiceClient.create phone profile :
            BindingTask client CreateCustomerResult).attempt with
        | .ok created => register aes userId sessionId created deviceInfo ip draws
        | .error (.base .conflict _ _ _) =>
            writeAudit (registration userId none deviceInfo ip false "create_conflict")
            .fail (.conflict "Khách hàng vừa được tạo cho số này — dùng luồng liên kết (bind)."
              "CUSTOMER_EXISTS_USE_BIND" .undefined)
        | .error error => .fail error
      else
        writeAudit (registration userId none deviceInfo ip false
          ("re_resolve:" ++ resolve.status.text))
        .fail (.conflict
          "Khách hàng đã tồn tại cho số này — dùng luồng liên kết (bind), không đăng ký mới."
          "CUSTOMER_EXISTS_USE_BIND" (.obj [("status", .str resolve.status.text)]))

end BindingService

end SelfService
