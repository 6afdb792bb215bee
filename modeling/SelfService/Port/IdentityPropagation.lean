/-
As whom a request is served downstream.

`AuthPropagationMiddleware` signs a token for the user of the session and leaves it in the context
of the request, where `PortHttpClient` finds it.  A queued call is replayed in the same context,
maybe long after the token has expired; it is then refused once, and the retry names a token
signed anew.
-/

import SelfService.Auth.JwtSigner
import SelfService.Clients.OwnerScopedAdapters

namespace SelfService

open PortHttpClient CorrelationIdMiddleware
open JwtSignerService (Admits)

/-! ### The middleware -/

structure BetterAuthUser where
  id : Option String
  role : Option String
  provider : Option String

structure BetterAuthSession where
  id : Option String
  user : Option BetterAuthUser

/-- An inbound request with its session and its headers `x-auth-provider` and `x-session-id`. -/
structure SessionRequest where
  inbound : InboundRequest
  session : Option BetterAuthSession
  authProvider : Option String
  sessionId : Option String

namespace AuthPropagationMiddleware

/-- A text that counts as true. -/
def truthyText (text : Option String) : Option String := text.filter fun text => text ≠ ""

/-- The session, where it has a user with an id. -/
def signedIn (request : SessionRequest) : Option (BetterAuthSession × BetterAuthUser × String) := do
  let session ← request.session
  let user ← session.user
  let userId ← truthyText user.id
  return (session, user, userId)

def extractRoles (user : BetterAuthUser) : List String := [(truthyText user.role).getD "customer"]

def extractProvider (user : BetterAuthUser) (request : SessionRequest) : String :=
  (truthyText user.provider).getD (request.authProvider.getD "app")

def extractSessionId (session : BetterAuthSession) (request : SessionRequest) : String :=
  (truthyText session.id).getD (request.sessionId.getD "")

def identityOf (request : SessionRequest) (tenantId : Option String) : Option CallerIdentity :=
  (signedIn request).map fun found =>
    { userId := found.2.2
      roles := extractRoles found.2.1
      provider := extractProvider found.2.1 request
      sessionId := extractSessionId found.1 request
      tenantId := tenantId }

/-- `{ ...metadata, roles, provider, sessionId, signedJwt }`. -/
def enriched (metadata : Option JsValue) (identity : CallerIdentity) (signedJwt : String) : JsValue :=
  let fields :=
    match metadata with
    | some (.obj fields) => fields
    | _ => []
  .obj ([("roles", .arr (identity.roles.map JsValue.str)), ("provider", .str identity.provider),
    ("sessionId", .str identity.sessionId), ("signedJwt", .str signedJwt)].foldl
      (fun fields field => JsValue.putField field.1 field.2 fields) fields)

/-- The context that the rest of the request runs in. -/
def use (signer : JwtSignerService) (jose : Jose) (now : Nat) (uuid : String)
    (context : Option RequestContext) (request : SessionRequest) : Option RequestContext :=
  context.map fun context =>
    match identityOf request context.tenantId with
    | none => context
    | some identity =>
        let signedJwt := signer.sign jose now identity.payload
        RequestContextProvider.createFull (some context.correlationId) (some identity.userId)
          context.tenantId (some (enriched context.metadata identity signedJwt)) uuid

end AuthPropagationMiddleware

/-- The context after both middlewares. -/
def SessionRequest.context (request : SessionRequest) (signer : JwtSignerService) (jose : Jose)
    (now : Nat) (uuid : String) : Option RequestContext :=
  AuthPropagationMiddleware.use signer jose now uuid
    (some (RequestContextProvider.createFull (some (correlationId request.inbound)) none none none
      request.inbound.uuid)) request

/-- Who is signed in; the inbound request names no tenant. -/
def SessionRequest.identity (request : SessionRequest) : Option CallerIdentity :=
  AuthPropagationMiddleware.identityOf request none

/-! ### Whom a call is taken for -/

def bearers (call : HttpCall) : List String :=
  (call.headers.filter fun header => header.1 = "Authorization").map Prod.snd

/-- The reader takes the call for one of somebody. -/
def Identifies (jose : Jose) (reader : JwtSignerService) (now : Nat) (call : HttpCall)
    (payload : JsValue) : Prop :=
  ∃ token, bearers call = ["Bearer " ++ token] ∧ reader.verify jose now token = .ok payload

def HttpAnswer.refused : HttpAnswer → Bool
  | .response 401 _ _ => true
  | _ => false

namespace LogicalOperation

def Run.now : Run → Nat
  | .direct now _ _ => now
  | .replay _ now _ _ => now

def Run.first : Run → HttpAnswer
  | .direct _ first _ => first
  | .replay _ _ first _ => first

/-- The context that a run of the operation takes place in. -/
def contextIn (operation : LogicalOperation) : Run → Option RequestContext
  | .direct _ _ _ => operation.context
  | .replay uuid _ _ _ => some (operation.replayContext uuid)

end LogicalOperation

/-- The context names the caller and holds a token. -/
structure NamesCaller (context : RequestContext) (identity : CallerIdentity) (token : String) : Prop where
  user : userOf (some context) = some (context, identity.userId)
  signed : (metadataOf context).field "signedJwt" = .str token
  named : claims context identity.userId = identity.payload

section Calls

variable {platform : HttpPlatform} {context : RequestContext} {identity : CallerIdentity}
  {token : String} {now : Nat} {options : PortHttpRequest} {answer again : HttpAnswer}

theorem bearers_first (names : NamesCaller context identity token) :
    bearers (callOf platform (headersOf platform now (some context) options) options) =
      ["Bearer " ++ token] := by
  unfold bearers callOf headersOf authorization
  rw [names.user]
  simp only [names.signed]
  by_cases writes : options.method = .post ∨ options.method = .put <;> simp [writes]

theorem bearers_second (names : NamesCaller context identity token) :
    bearers (callOf platform (reauthorized platform now (some context)
        (headersOf platform now (some context) options)) options) =
      ["Bearer " ++ platform.sign now identity.payload] := by
  unfold bearers callOf reauthorized headersOf authorization bearer
  rw [names.user]
  simp only [names.signed, names.named]
  by_cases writes : options.method = .post ∨ options.method = .put <;> simp [writes]

theorem bearers_anonymous (anonymous : context.userId = none) :
    bearers (callOf platform (headersOf platform now (some context) options) options) = [] := by
  have nobody : userOf (some context) = none := by
    simp [userOf, anonymous]
  unfold bearers callOf headersOf authorization
  rw [nobody]
  by_cases writes : options.method = .post ∨ options.method = .put <;> simp [writes]

theorem refused_iff :
    answer.refused = true ↔ ∃ statusText json, answer = .response 401 statusText json := by
  constructor
  · unfold HttpAnswer.refused
    split
    · rename_i statusText json
      exact fun _ => ⟨statusText, json, rfl⟩
    · intro refused
      cases refused
  · rintro ⟨statusText, json, rfl⟩
    rfl

theorem requestInternal_once {caller : Option RequestContext}
    (once : ¬ ((∃ statusText json, answer = .response 401 statusText json) ∧
      (userOf caller).isSome = true)) :
    (requestInternal platform now caller options answer again).1 =
      [callOf platform (headersOf platform now caller options) options] := by
  unfold requestInternal
  split
  · rename_i statusText json found user
    exact absurd ⟨⟨statusText, json, rfl⟩, by rw [user]; rfl⟩ once
  · rfl

/-- A call that names an identity is made once, or twice after a 401. -/
theorem calls_naming (platform : HttpPlatform) (now : Nat) (options : PortHttpRequest)
    (answer again : HttpAnswer) (names : NamesCaller context identity token) :
    ∃ first second, bearers first = ["Bearer " ++ token] ∧
      bearers second = ["Bearer " ++ platform.sign now identity.payload] ∧
      (requestInternal platform now (some context) options answer again).1 =
        if answer.refused = true then [first, second] else [first] := by
  refine ⟨callOf platform (headersOf platform now (some context) options) options,
    callOf platform (reauthorized platform now (some context)
      (headersOf platform now (some context) options)) options,
    bearers_first names, bearers_second names, ?_⟩
  by_cases refused : answer.refused = true
  · obtain ⟨statusText, json, rfl⟩ := refused_iff.mp refused
    unfold requestInternal
    rw [if_pos refused, names.user]
    rfl
  · rw [if_neg refused, requestInternal_once]
    rintro ⟨⟨statusText, json, same⟩, -⟩
    exact refused (refused_iff.mpr ⟨statusText, json, same⟩)

theorem calls_anonymous (platform : HttpPlatform) (now : Nat) (options : PortHttpRequest)
    (answer again : HttpAnswer) (anonymous : context.userId = none) :
    ∃ call, bearers call = [] ∧
      (requestInternal platform now (some context) options answer again).1 = [call] := by
  refine ⟨callOf platform (headersOf platform now (some context) options) options,
    bearers_anonymous anonymous, ?_⟩
  have nobody : userOf (some context) = none := by
    simp [userOf, anonymous]
  rw [requestInternal_once]
  rintro ⟨-, present⟩
  rw [nobody] at present
  cases present

end Calls

/-! ### Contexts -/

section Contexts

variable {jose : Jose} {receiver : JwtSignerService} {request : SessionRequest}
  {operation : LogicalOperation} {identity : CallerIdentity} {received : Nat} {uuid again : String}

theorem identity_named (found : request.identity = some identity) :
    identity.userId ≠ "" ∧ identity.tenantId = none := by
  unfold SessionRequest.identity AuthPropagationMiddleware.identityOf at found
  obtain ⟨⟨session, user, userId⟩, signedIn, rfl⟩ := Option.map_eq_some_iff.mp found
  refine ⟨?_, rfl⟩
  simp only [AuthPropagationMiddleware.signedIn, AuthPropagationMiddleware.truthyText,
    Option.bind_eq_bind, Option.bind_eq_some_iff, Option.filter_eq_some_iff, Option.pure_def,
    Option.some.injEq, Prod.mk.injEq, decide_eq_true_eq] at signedIn
  obtain ⟨_, -, _, -, _, ⟨-, named⟩, -, -, rfl⟩ := signedIn
  exact named

theorem context_signedIn (receiver : JwtSignerService) (jose : Jose) (received : Nat)
    (uuid : String) (found : request.identity = some identity) :
    ∃ context, request.context receiver jose received uuid = some context ∧
      context.metadata = some (AuthPropagationMiddleware.enriched none identity
        (receiver.sign jose received identity.payload)) ∧
      context.userId = some identity.userId ∧ context.tenantId = none := by
  unfold SessionRequest.context AuthPropagationMiddleware.use
  have same : AuthPropagationMiddleware.identityOf request none = some identity := found
  refine ⟨_, rfl, ?_⟩
  simp only [RequestContextProvider.createFull, same, and_self]

theorem context_anonymous (receiver : JwtSignerService) (jose : Jose) (received : Nat)
    (uuid : String) (nobody : request.identity = none) :
    ∃ context, request.context receiver jose received uuid = some context ∧
      context.userId = none := by
  unfold SessionRequest.context AuthPropagationMiddleware.use
  have same : AuthPropagationMiddleware.identityOf request none = none := nobody
  refine ⟨_, rfl, ?_⟩
  simp only [RequestContextProvider.createFull, same]

/-- The metadata of the middleware, kept in the process or queued as JSON. -/
theorem namesCaller_of_enriched {context : RequestContext} {token : String}
    (named : identity.userId ≠ "") (tenant : identity.tenantId = none)
    (user : context.userId = some identity.userId) (noTenant : context.tenantId = none)
    (metadata : context.metadata =
      some (AuthPropagationMiddleware.enriched none identity token)) :
    NamesCaller context identity token := by
  constructor
  · simp [userOf, user, named]
  · rw [metadataOf, metadata]
    rfl
  · rw [claims, metadataOf, metadata, noTenant, CallerIdentity.payload, tenant]
    rfl

theorem enriched_roundTrip (identity : CallerIdentity) (token : String) :
    (AuthPropagationMiddleware.enriched none identity token).roundTrip =
      AuthPropagationMiddleware.enriched none identity token := by
  change JsValue.obj _ = JsValue.obj _
  simp [JsValue.roundTripFields, JsValue.roundTrip, JwtSignerService.roundTripItems_texts,
    JsValue.putField]

/-- Whoever is signed in is named in every context that the operation runs in. -/
theorem contextIn_namesCaller (found : request.identity = some identity)
    (asked : operation.context = request.context receiver jose received uuid)
    (run : LogicalOperation.Run) :
    ∃ context, operation.contextIn run = some context ∧
      NamesCaller context identity (receiver.sign jose received identity.payload) := by
  obtain ⟨named, tenant⟩ := identity_named found
  obtain ⟨context, same, metadata, user, noTenant⟩ :=
    context_signedIn receiver jose received uuid found
  rw [same] at asked
  cases run with
  | direct now first second =>
      exact ⟨context, asked, namesCaller_of_enriched named tenant user noTenant metadata⟩
  | replay again now first second =>
      have queued : (PortRegistry.replayPayload operation.invocation).context = context := by
        unfold PortRegistry.replayPayload PortRegistry.currentContext LogicalOperation.invocation
        simp only [asked]
      refine ⟨operation.replayContext again, rfl, namesCaller_of_enriched named tenant ?_ ?_ ?_⟩
      · rw [LogicalOperation.replayContext, queued]
        exact user
      · rw [LogicalOperation.replayContext, queued]
        exact noTenant
      · rw [LogicalOperation.replayContext, queued, metadata]
        exact congrArg some (enriched_roundTrip identity _)

theorem contextIn_anonymous (nobody : request.identity = none)
    (asked : operation.context = request.context receiver jose received uuid)
    (run : LogicalOperation.Run) :
    ∃ context, operation.contextIn run = some context ∧ context.userId = none := by
  obtain ⟨context, same, user⟩ := context_anonymous receiver jose received uuid nobody
  rw [same] at asked
  cases run with
  | direct now first second => exact ⟨context, asked, user⟩
  | replay again now first second =>
      have queued : (PortRegistry.replayPayload operation.invocation).context = context := by
        unfold PortRegistry.replayPayload PortRegistry.currentContext LogicalOperation.invocation
        simp only [asked]
      refine ⟨operation.replayContext again, rfl, ?_⟩
      rw [LogicalOperation.replayContext, queued]
      exact user

end Contexts

/-! ### Every attempt -/

section Attempts

variable {jose : Jose} {receiver sender reader : JwtSignerService} {platform : HttpPlatform}
  {request : SessionRequest} {operation : LogicalOperation} {run : LogicalOperation.Run}
  {received arrival later : Nat} {uuid : String}

/-- Downstream answers 401 exactly where the token of the first call does not pass. -/
def Guards (jose : Jose) (reader : JwtSignerService) (platform : HttpPlatform)
    (operation : LogicalOperation) (run : LogicalOperation.Run) (arrival : Nat) : Prop :=
  run.first.refused = true ↔ ∀ call ∈ (operation.calls platform run).head?, ∀ payload,
    ¬ Identifies jose reader arrival call payload

/-- For whom the calls of one attempt are made.  The first of them arrives at one time, and the
second, if there is one, at another. -/
structure Conveyed (jose : Jose) (receiver sender reader : JwtSignerService)
    (platform : HttpPlatform) (request : SessionRequest) (received : Nat)
    (operation : LogicalOperation) (run : LogicalOperation.Run) (arrival later : Nat) : Prop where
  anonymous : request.identity = none → ∃ call, operation.calls platform run = [call] ∧
    bearers call = []
  own : ∀ identity, request.identity = some identity → ∀ call ∈ operation.calls platform run,
    ∀ now payload, Identifies jose reader now call payload → payload = identity.payload
  tries : request.identity ≠ none → Guards jose reader platform operation run arrival →
    (operation.calls platform run).length =
      if Admits reader receiver received arrival then 1 else 2
  arrives : ∀ identity, request.identity = some identity →
    Guards jose reader platform operation run arrival → Admits reader sender run.now later →
      ∃ call, (operation.calls platform run).getLast? = some call ∧
        Identifies jose reader (if Admits reader receiver received arrival then arrival else later)
          call identity.payload

theorem calls_eq (platform : HttpPlatform) (operation : LogicalOperation)
    (run : LogicalOperation.Run) :
    ∃ options again, operation.calls platform run =
      (requestInternal platform run.now (operation.contextIn run) options run.first again).1 := by
  cases run with
  | direct now first second => exact ⟨_, second, rfl⟩
  | replay uuid now first second => exact ⟨_, second, rfl⟩

theorem identifies_iff {call : HttpCall} {token : String} {now : Nat} {payload : JsValue}
    (bears : bearers call = ["Bearer " ++ token]) :
    Identifies jose reader now call payload ↔ reader.verify jose now token = .ok payload := by
  constructor
  · rintro ⟨other, same, read⟩
    rw [bears] at same
    rwa [(String.append_right_inj _).mp (List.cons.inj same).1]
  · exact fun read => ⟨token, bears, read⟩

end Attempts

/-! ### Replayed an hour later, after a rotation -/

def earlierSigner : JwtSignerService := .configured "s-1" none none 900

def laterSigner : JwtSignerService := .configured "s-2" (some "s-1") none 900

def zaloRequest : SessionRequest where
  inbound := inboundOrder
  session := some ⟨some "S-1", some ⟨some "U-1", none, none⟩⟩
  authProvider := some "zalo"
  sessionId := none

def zaloCaller : CallerIdentity := ⟨"U-1", ["customer"], "zalo", "S-1", none⟩

def anHourLater : Nat := 1700000000000 + 3600000

/-- The two tokens of the run. -/
def twoTokens : Jose where
  sign secret _ := if secret = "s-1" then "jwt-1" else "jwt-2"
  verify secret issuer seconds token :=
    if token = "jwt-1" then
      if secret = "s-1" then
        Jose.validated issuer seconds (earlierSigner.claimsOf 1700000000000 zaloCaller.payload).roundTrip
      else .error .signatureInvalid
    else if token = "jwt-2" then
      if secret = "s-2" then
        Jose.validated issuer seconds (laterSigner.claimsOf anHourLater zaloCaller.payload).roundTrip
      else .error .signatureInvalid
    else .error .malformed

def zaloPlatform : HttpPlatform := { paymentPlatform with sign := laterSigner.sign twoTokens }

def zaloPayment : LogicalOperation where
  inbound := some inboundOrder
  userId := some "U-1"
  tenantId := none
  metadata := some (AuthPropagationMiddleware.enriched none zaloCaller "jwt-1")
  adapter := paymentAdapter
  method := "create-payment"
  params := [("invoiceId", .str "HD-1")]

def replayedLater : LogicalOperation.Run :=
  .replay "u-2" anHourLater (.response 401 "Unauthorized" none)
    (.response 200 "OK" (some (.obj [])))

end SelfService
