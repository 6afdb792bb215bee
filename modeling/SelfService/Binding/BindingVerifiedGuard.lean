/-
Who the bound customer of a request is.

The guard reads the cache first and a verified row after it, and puts back what
it read; `GET /auth/me` reads a verified row only.
-/

import SelfService.Binding.BindingService

namespace SelfService

open Data EventLoop

variable {client : CustomerServiceClient}

/-- The query for one verified row of the user; it has no order. -/
def selectVerified (userId : String) : BindingTask client (Option CustomerBinding) :=
  .await (.inr (.selectVerified userId)) fun reply => ofReply reply

namespace BindingVerifiedGuard

def CACHE_TTL_SEC : Nat := 60 * 60

def forbidden : Exn :=
  .http 403 (.obj [("statusCode", .num 403), ("code", .str "BINDING_REQUIRED"),
    ("message", .str "Customer binding not verified.")])

def integrityError : Exn :=
  .http 500 (.obj [("statusCode", .num 500), ("code", .str "BINDING_INTEGRITY"),
    ("message", .str "Binding integrity error.")])

/-- It is `null` when the user has no verified binding. -/
def resolveBinding (userId : String) : BindingTask client JsValue := do
  let cached ← CacheService.get (BindingService.bindKey userId)
  if cached.truthy then return cached
  else
    match ← selectVerified userId with
    | none => return .null
    | some row =>
        let entry := BindingService.bindingEntry row.customerId row.customerRef
          ((row.verifiedAt.map JsValue.date).getD .null) row.deviceInfo
        let _ ← (CacheService.set (BindingService.bindKey userId) entry (some CACHE_TTL_SEC) :
          BindingTask client Unit).attempt
        return entry

/-- The cached ciphertext is whatever the cache held. -/
def decryptCipher (aes : AesGcm) : JsValue → Except Exn (Option String)
  | .str cipher => PiiEncryptionService.decryptIfNeeded aes (some cipher)
  | other =>
      if other.truthy then .error (.error "TypeError: ciphertext.split is not a function")
      else .ok none

def boundCustomer (userId customerId : String) (entry : JsValue) : JsValue :=
  .obj [("id", .str userId), ("customerId", .str customerId),
    ("customerRef", entry.field "customerRef"), ("verifiedAt", entry.field "verifiedAt"),
    ("deviceInfo", entry.field "deviceInfo")]

/-- What is attached to the request, if the request may go on. -/
def canActivate (aes : AesGcm) (userId : Option String) (skip : Bool) :
    BindingTask client (Option JsValue) :=
  match userId.filter fun text => text ≠ "" with
  | none => .done none
  | some userId =>
      if skip then .done none
      else do
        let entry ← resolveBinding userId
        if entry.truthy then
          match decryptCipher aes (entry.field "customerIdCipher") with
          | .error error => .fail error
          | .ok customerId =>
              match customerId.filter fun text => text ≠ "" with
              | none => .fail integrityError
              | some customerId => return some (boundCustomer userId customerId entry)
        else .fail forbidden

end BindingVerifiedGuard

namespace AuthController

def optionalText (text : Option String) : JsValue := (text.map JsValue.str).getD .null

def getMe (aes : AesGcm) (userId : String) : BindingTask client JsValue :=
  .await (.inr (.selectIdentity userId)) fun
    | .failed _ reason => .fail (.error reason)
    | .ok user => do
        let row ← selectVerified userId
        match PiiEncryptionService.decryptIfNeeded aes (row.bind CustomerBinding.customerId) with
        | .error error => .fail error
        | .ok customerId =>
            return .obj [("userId", .str userId),
              ("profileStatus", .str ((user.bind UserIdentity.profileStatus).getD "incomplete")),
              ("fullName", optionalText (user.bind UserIdentity.fullName)),
              ("hasCccd", .bool ((user.bind UserIdentity.cccd).any fun text => text ≠ "")),
              ("customerId", optionalText customerId), ("linked", .bool row.isSome)]

end AuthController

/-! ### The process -/

def bindingBody (aes : AesGcm) : BindingCall → BindingTask client Resolution
  | .bindInit userId sessionId deviceInfo ip => do
      let result ← BindingService.bindInit userId sessionId deviceInfo ip
      return .value result.toJs
  | .bind userId sessionId body deviceInfo ip draws => do
      let result ← BindingService.bind aes userId sessionId body deviceInfo ip draws
      return .value result.toJs
  | .bindRegister userId sessionId profile deviceInfo ip draws => do
      let result ← BindingService.bindRegister aes userId sessionId profile deviceInfo ip draws
      return .value result.toJs
  | .guard userId skip => do
      let customer ← BindingVerifiedGuard.canActivate aes userId skip
      return (customer.map Resolution.value).getD .nothing
  | .getMe userId => do
      let me ← AuthController.getMe aes userId
      return .value me

def bindingService (client : CustomerServiceClient) (aes : AesGcm) : Service (binding client) where
  body := bindingBody aes
  perform := performBinding

def bindingDeployment (client : CustomerServiceClient) (wiring : Wiring)
    (environment : CacheEnvironment) : Deployment (binding client) where
  toWiring := wiring
  adapter := remoteAdapter
  environment := environment

abbrev bindingSystem (client : CustomerServiceClient) (aes : AesGcm) (wiring : Wiring)
    (environment : CacheEnvironment) :
    System (portSignature (binding client)) Resolution PortExternal :=
  portSystem (bindingDeployment client wiring environment) (bindingService client aes)

end SelfService
