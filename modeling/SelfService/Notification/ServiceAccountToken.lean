/-
The token of the service account, and the messages that carry it.

One token is kept for all callers until ten seconds before it expires, counted
from before it was asked for.  Callers that find none each ask for one, and the
one that is answered last is kept.
-/

import Mathlib.Algebra.Order.Field.Rat
import SelfService.Core.Exceptions
import SelfService.EventLoop.History
import SelfService.EventLoop.Observer
import SelfService.EventLoop.Safety

namespace SelfService

open EventLoop

/-! ### The two services -/

/-- The environment that the services read; `validMetadata` is what gRPC takes for a header. -/
structure NotificationConfig where
  KEYCLOAK_SA_CLIENT_ID : Option String
  KEYCLOAK_SA_CLIENT_SECRET : Option String
  KEYCLOAK_URL : Option String
  KEYCLOAK_REALM : Option String
  NOTIFICATION_GRPC_URL : Option String
  NOTIFICATION_TENANT_ID : Option String
  stringify : JsValue → String
  validMetadata : String → Bool

/-- The body of a token response, as far as it is read. -/
structure TokenBody where
  access_token : Option String
  expires_in : Option Rat
  deriving DecidableEq

/-- How a `Send` ends: with a reply, with an error, or by throwing at once. -/
inductive SendReply
  | sent (notificationId status : String)
  | failed (message : String)
  | threw (message : String)
  deriving DecidableEq

inductive NotificationRequest : Type
  | fetchToken (endpoint clientId clientSecret : String)
  | readText
  | readBody
  | send (message : JsValue) (authorization : Option String)
  | mock (method : String) (params : JsValue)
  deriving DecidableEq

/-- A fetch that gets through is answered with its status. -/
abbrev NotificationRequest.Answer : NotificationRequest → Type
  | .fetchToken _ _ _ => Except String Nat
  | .readText => Except String String
  | .readBody => Except String TokenBody
  | .send _ _ => SendReply
  | .mock _ _ => Except Exn JsValue

/-- What the token service leaves on the trace. -/
inductive TokenMark : Type
  | asked
  | stored (token : Option String) (expiresAt : Rat)
  | handedOut (token : Option String)

inductive NotificationCall : Type
  | getToken
  | sendOtp (phoneNumber code : String)
  | delegated (method : String) (params : JsValue)

inductive NotificationAnswer : Type
  | token (token : Option String)
  | value (value : JsValue)
  deriving DecidableEq

structure TokenState where
  token : Option String
  expiresAt : Rat
  now : Nat

abbrev notifications : Signature where
  State := TokenState
  Req := NotificationRequest
  Ans := NotificationRequest.Answer
  Mark := TokenMark
  Call := NotificationCall
  Err := Exn

abbrev NotificationTask := Task notifications

/-- A text that is set and not empty. -/
def given (text : Option String) : Option String := text.filter fun text => text ≠ ""

namespace KeycloakSaTokenService

def isConfigured (config : NotificationConfig) : Bool :=
  (given config.KEYCLOAK_SA_CLIENT_ID).isSome && (given config.KEYCLOAK_SA_CLIENT_SECRET).isSome

def endpoint (config : NotificationConfig) : String :=
  config.KEYCLOAK_URL.getD "http://localhost:8080" ++ "/realms/" ++
    config.KEYCLOAK_REALM.getD "water-platform" ++ "/protocol/openid-connect/token"

/-- A minute where the response does not say, less ten seconds. -/
def expiry (since : Nat) (body : TokenBody) : Rat :=
  since + max 0 (body.expires_in.getD 60 - 10) * 1000

/-- There is a token, and it has time left. -/
def Live (held : Option String × Rat) (now : Nat) : Prop :=
  (given held.1).isSome = true ∧ (now : Rat) < held.2

instance (held : Option String × Rat) (now : Nat) : Decidable (Live held now) := by
  unfold Live
  infer_instance

def fetchToken (config : NotificationConfig) (now : Nat) : NotificationTask (Option String) :=
  .mark .asked
    (.await (.fetchToken (endpoint config) (config.KEYCLOAK_SA_CLIENT_ID.getD "")
        (config.KEYCLOAK_SA_CLIENT_SECRET.getD "")) fun
      | .error reason => .fail (.error reason)
      | .ok status =>
          if 200 ≤ status ∧ status ≤ 299 then
            .await .readBody fun
              | .error reason => .fail (.error reason)
              | .ok body =>
                  .sync (fun state => { state with
                      token := body.access_token
                      expiresAt := expiry now body }) fun _ =>
                    .mark (.stored body.access_token (expiry now body))
                      (.mark (.handedOut body.access_token) (.done body.access_token))
          else
            .await .readText fun _ =>
              .fail (.error ("Keycloak SA token failed: " ++ toString status)))

def getToken (config : NotificationConfig) : NotificationTask (Option String) :=
  if isConfigured config then
    .sync id fun state =>
      if Live (state.token, state.expiresAt) state.now then
        .mark (.handedOut state.token) (.done state.token)
      else fetchToken config state.now
  else .done none

end KeycloakSaTokenService

namespace NotificationGrpcAdapter

def idempotencyKey (phoneNumber code : String) : String := "otp:" ++ phoneNumber ++ ":" ++ code

def otpMessage (config : NotificationConfig) (phoneNumber code : String) : JsValue :=
  .obj [("template_key", .str "customer.otp"),
    ("tenant_id", .str (config.NOTIFICATION_TENANT_ID.getD "tnt_hawaco")),
    ("recipients", .arr [.obj [("user_id", .str ""), ("phone", .str phoneNumber),
      ("email", .str "")]]),
    ("channels", .arr [.str "sms"]),
    ("data_json", .str (config.stringify (.obj [("otp", .str code)]))),
    ("locale", .str ""), ("idempotency_key", .str (idempotencyKey phoneNumber code))]

/-- What the login flow sees when the platform is not wired or not there. -/
def sentOnly : JsValue := .obj [("sent", .bool true)]

def dispatched (notificationId status : String) : JsValue :=
  .obj [("sent", .bool true), ("notificationId", .str notificationId), ("status", .str status)]

/-- What a `Send` with this authorization resolves with. -/
def sendReply : SendReply → Except Exn JsValue
  | .sent notificationId status => .ok (dispatched notificationId status)
  | .failed _ => .ok sentOnly
  | .threw message => .error (.error message)

def illegalMetadata : Exn := .error "Metadata string value contains illegal characters"

/-- There is a client exactly where there is a URL.  Without a token the message goes without. -/
def sendOtp (config : NotificationConfig) (phoneNumber code : String) : NotificationTask JsValue :=
  match given config.NOTIFICATION_GRPC_URL with
  | none => .done sentOnly
  | some _ => do
      let outcome ← (KeycloakSaTokenService.getToken config).attempt
      let authorization := (given (outcome.toOption.getD none)).map fun token => "Bearer " ++ token
      if authorization.all config.validMetadata then
        .await (.send (otpMessage config phoneNumber code) authorization) fun reply =>
          Task.settleWith (sendReply reply)
      else .fail illegalMetadata

end NotificationGrpcAdapter

def notificationBody (config : NotificationConfig) :
    NotificationCall → NotificationTask NotificationAnswer
  | .getToken => do
      let token ← KeycloakSaTokenService.getToken config
      return .token token
  | .sendOtp phoneNumber code => do
      let value ← NotificationGrpcAdapter.sendOtp config phoneNumber code
      return .value value
  | .delegated method params =>
      .await (.mock method params) fun outcome => Task.settleWith (outcome.map NotificationAnswer.value)

/-- Only the clock moves by itself. -/
abbrev notificationSystem (config : NotificationConfig) :
    System notifications NotificationAnswer Nat where
  body := notificationBody config
  perform state _ _ := some state
  external state millis := some { state with now := state.now + millis }
  clock := TokenState.now

abbrev NotificationTrace := Trace notifications NotificationAnswer

abbrev NotificationSnapshot := Snapshot notifications NotificationAnswer

abbrev NotificationEvent := Event notifications NotificationAnswer

abbrev NotificationEntry := Entry notifications NotificationAnswer

/-- A service that was just constructed. -/
def noToken (now : Nat) : TokenState := ⟨none, 0, now⟩

end SelfService
