/-
Customer chat: the outbox, its forwarder, and the adapter towards the receiver.

A message is stored first and forwarded later.  The forwarder goes through the
port registry like every other caller; the adapter of the chat port turns a
send into a signed HTTP request.
-/

import SelfService.Port.Registry
import Mathlib.Data.List.Sort

namespace SelfService

open Data EventLoop PortRegistry

/-! ### Tables and settings -/

/-- One row of `chat_outbox`. -/
structure OutboxRow where
  messageId : String
  userId : String
  text : String
  createdAt : Nat
  forwardedAt : Option Nat
  deriving DecidableEq

/-- The table, and the forwarder's memory of its last TCP probe. -/
structure ChatState where
  outbox : List OutboxRow
  probeOk : Bool
  probeAt : Nat

/-- What the signing of a request takes from the platform: SHA-256 of a body's JSON
text (of the empty text without a body), HMAC-SHA-256, and the path and query of a
URL. -/
structure Crypto where
  sha256Hex : JsValue → String
  hmacSha256Hex : String → String → String
  pathAndQuery : String → String

/-- The chat part of the environment variables.  `webhookUrl` is
`CSKH_WEBHOOK_URL` with the path appended; `wire` is the host and port that
could be parsed from it.  `rejection` is what the schema library writes about a
bad input. -/
structure ChatSettings where
  webhookUrl : Option String
  wire : Option (String × Nat)
  hmacSecret : Option String
  crypto : Crypto
  rejection : JsValue → String

/-! ### Signatures -/

def buildCanonicalString (crypto : Crypto) (timestamp method pathAndQuery : String)
    (body : JsValue) : String :=
  "v1:" ++ timestamp ++ ":" ++ method.toUpper ++ ":" ++ pathAndQuery ++ ":" ++
    crypto.sha256Hex body

def signWebhook (crypto : Crypto) (secret : String) (now : Nat) (method url : String)
    (body : JsValue) : List (String × String) :=
  let timestamp := toString (now / 1000)
  let canonical := buildCanonicalString crypto timestamp method (crypto.pathAndQuery url) body
  [("x-timestamp", timestamp), ("x-signature", "v1=" ++ crypto.hmacSha256Hex secret canonical)]

/-! ### Requests of the chat -/

structure WebhookRequest where
  method : String
  url : String
  headers : List (String × String)
  body : JsValue
  deriving DecidableEq

/-- How a `fetch` ends; `json` is the parsed body, if it parses. -/
inductive FetchOutcome : Type
  | response (status : Nat) (statusText : String) (json : Option JsValue)
  | aborted
  | unreachable (reason : String)
  deriving DecidableEq

inductive ChatRequest : Type
  | probe (host : String) (port : Nat)
  | randomUUID
  | fetch (request : WebhookRequest)
  | insert (row : OutboxRow)
  | selectPending (limit : Nat)
  | selectByUser (userId : String)
  | markForwarded (messageId : String) (forwardedAt : Nat)
  deriving DecidableEq

abbrev ChatRequest.Answer : ChatRequest → Type
  | .probe _ _ => Bool
  | .randomUUID => String
  | .fetch _ => FetchOutcome
  | .insert _ => Reply Unit
  | .selectPending _ => Reply (List OutboxRow)
  | .selectByUser _ => Reply (List OutboxRow)
  | .markForwarded _ _ => Reply Unit

/-- The entry points; the identifier of a new message is drawn at random. -/
inductive ChatCall : Type
  | sendMessage (context : Option RequestContext) (userId text messageId : String)
  | getConversation (context : Option RequestContext) (userId : String)
  | flushOnce (context : Option RequestContext)

def chat : Extension where
  State := ChatState
  Req := ChatRequest
  Ans := ChatRequest.Answer
  Mark := Empty
  Call := ChatCall

instance : DecidableEq (portSignature chat).Req :=
  inferInstanceAs (DecidableEq (PortRequest ⊕ ChatRequest))

abbrev ChatTask := PortTask chat

def chatAsk (request : ChatRequest) : ChatTask request.Answer :=
  .await (.inr request) .done

/-! ### The database -/

/-- Ordered by `created_at`, oldest first. -/
def byCreation (rows : List OutboxRow) : List OutboxRow :=
  rows.insertionSort fun left right => left.createdAt ≤ right.createdAt

def pendingRows (rows : List OutboxRow) (limit : Nat) : List OutboxRow :=
  (byCreation (rows.filter fun row => row.forwardedAt.isNone)).take limit

def setForwarded (messageId : String) (forwardedAt : Nat) (rows : List OutboxRow) :
    List OutboxRow :=
  rows.map fun row =>
    if row.messageId = messageId then { row with forwardedAt := some forwardedAt } else row

def performChat (state : ChatState) :
    (request : ChatRequest) → request.Answer → Option ChatState
  | .probe _ _, _ => some state
  | .randomUUID, _ => some state
  | .fetch _, _ => some state
  | .insert row, .ok _ =>
      if state.outbox.any (fun other => other.messageId = row.messageId) then none
      else some { state with outbox := state.outbox ++ [row] }
  | .insert row, .failed applied _ =>
      if applied && !state.outbox.any (fun other => other.messageId = row.messageId) then
        some { state with outbox := state.outbox ++ [row] }
      else some state
  | .selectPending limit, .ok rows =>
      if rows = pendingRows state.outbox limit then some state else none
  | .selectPending _, .failed _ _ => some state
  | .selectByUser userId, .ok rows =>
      if rows = byCreation (state.outbox.filter fun row => row.userId = userId) then some state
      else none
  | .selectByUser _, .failed _ _ => some state
  | .markForwarded messageId forwardedAt, .ok _ =>
      some { state with outbox := setForwarded messageId forwardedAt state.outbox }
  | .markForwarded messageId forwardedAt, .failed applied _ =>
      some (if applied then
        { state with outbox := setForwarded messageId forwardedAt state.outbox } else state)

/-! ### The adapter of the chat port -/

namespace CskhChatAdapter

def WIRE_TIMEOUT_MS : Nat := 3000

def isOk (status : Nat) : Bool := 200 ≤ status && status < 300

/-- Reads `raw?.data ?? raw` for a body that may not parse. -/
def envelope (json : Option JsValue) : JsValue :=
  let raw := json.getD .null
  if (raw.field "data").isNullish then raw else raw.field "data"

/-- A non-2xx answer, an abort and a network failure, as the adapter throws them. -/
def wireError (url : String) : FetchOutcome → Exn
  | .response status statusText _ => .portDownstream "cskh-chat" status statusText url
  | .aborted => .portTimeout "cskh-chat" WIRE_TIMEOUT_MS
  | .unreachable reason => .portDownstream "cskh-chat" 0 ("unreachable: " ++ reason) url

def postRequest (settings : ChatSettings) (secret : String) (now : Nat) (url : String)
    (body : JsValue) : WebhookRequest where
  method := "POST"
  url := url
  headers := ("Content-Type", "application/json") ::
    signWebhook settings.crypto secret now "POST" url body
  body := body

/-- The caller's identifier, or a fresh one. -/
def messageIdOf (params : JsValue) : ChatTask JsValue :=
  if (params.field "messageId").isNullish then do
    let drawn ← chatAsk .randomUUID
    return .str drawn
  else .done (params.field "messageId")

def payload (params messageId : JsValue) : JsValue :=
  .obj [("userId", params.field "userId"), ("messageId", messageId),
    ("text", params.field "text")]

def receipt (json : Option JsValue) : JsValue :=
  let data := envelope json
  .obj [("sent", .bool true), ("conversationId", data.field "conversationId"),
    ("messageId", data.field "messageId")]

def refusal (reason : String) : JsValue := .obj [("sent", .bool false), ("reason", .str reason)]

def post (settings : ChatSettings) (url secret : String) (params messageId : JsValue) :
    ChatTask JsValue := do
  let world ← Task.read
  match ← chatAsk (.fetch
      (postRequest settings secret world.now url (payload params messageId))) with
  | .response status statusText json =>
      if status = 401 ∨ status = 403 then return refusal "unauthorized"
      else if isOk status then return receipt json
      else .fail (wireError url (.response status statusText json))
  | failure => .fail (wireError url failure)

def sendMessage (settings : ChatSettings) (params : JsValue) : ChatTask JsValue :=
  match settings.webhookUrl, settings.hmacSecret with
  | none, _ => .done (.obj [("sent", .bool true)])
  | some _, none => .done (refusal "config")
  | some url, some secret => do
      let messageId ← messageIdOf params
      post settings url secret params messageId

def emptyThread : JsValue := .obj [("conversationId", .null), ("messages", .arr [])]

/-- Every failure of the read is answered with an empty thread. -/
def getConversation (settings : ChatSettings) (params : JsValue) : ChatTask JsValue :=
  match settings.webhookUrl, settings.hmacSecret with
  | some base, some secret => do
      let world ← Task.read
      let userId := match params.field "userId" with
        | .str text => text
        | _ => "undefined"
      let url := base ++ "/conversation?userId=" ++ encodeURIComponent userId
      let request : WebhookRequest :=
        { method := "GET"
          url := url
          headers := signWebhook settings.crypto secret world.now "GET" url .undefined
          body := .undefined }
      match ← chatAsk (.fetch request) with
      | .response status _ json =>
          if isOk status then
            let data := envelope json
            let conversationId := data.field "conversationId"
            return .obj
              [("conversationId", if conversationId.isNullish then .null else conversationId),
                ("messages", match data.field "messages" with
                  | .arr items => .arr items
                  | _ => .arr [])]
          else return emptyThread
      | _ => return emptyThread
  | _, _ => .done emptyThread

def execute (settings : ChatSettings) (method : String) (params : JsValue) : ChatTask JsValue :=
  if method = "send-message" then sendMessage settings params
  else if method = "get-conversation" then getConversation settings params
  else .fail (.error ("cskh-chat: unsupported method '" ++ method ++ "'"))

end CskhChatAdapter

/-! ### The forwarder -/

namespace ChatOutboxForwarder

def FLUSH_BATCH : Nat := 50

def PROBE_CACHE_MS : Nat := 30000

def wireReachable (settings : ChatSettings) : ChatTask Bool :=
  match settings.wire with
  | none => .done true
  | some (host, port) => do
      let world ← Task.read
      if world.now - world.service.probeAt < PROBE_CACHE_MS then
        return world.service.probeOk
      else do
        Task.modify fun current =>
          { current with service := { current.service with probeAt := world.now } }
        let reachable ← chatAsk (.probe host port)
        Task.modify fun current =>
          { current with service := { current.service with probeOk := reachable } }
        return reachable

def sendInvocation (context : Option RequestContext) (row : OutboxRow) : Invocation where
  context := context
  portName := "cskh-chat"
  method := "send-message"
  params := .obj [("userId", .str row.userId), ("text", .str row.text),
    ("messageId", .str row.messageId)]
  idempotencyKey := none

/-- What one row goes through inside its `try`; the answer says whether it was forwarded. -/
def forwardRow (d : Deployment chat) (context : Option RequestContext) (row : OutboxRow) :
    ChatTask Bool := do
  let result ← PortRegistry.execute d (sendInvocation context row)
  if (result.data.field "sent").truthy then
    let world ← Task.read
    match ← chatAsk (.markForwarded row.messageId world.now) with
    | .ok _ => return true
    | .failed _ reason => .fail (.error reason)
  else return false

/-- The loop over the batch; a row that throws is left pending. -/
def forwardRows (d : Deployment chat) (context : Option RequestContext) :
    List OutboxRow → Nat → ChatTask Nat
  | [], forwarded => .done forwarded
  | row :: rest, forwarded => do
      match ← (forwardRow d context row).attempt with
      | .ok true => forwardRows d context rest (forwarded + 1)
      | _ => forwardRows d context rest forwarded

def flushOnce (d : Deployment chat) (settings : ChatSettings)
    (context : Option RequestContext) : ChatTask Nat := do
  if ← wireReachable settings then
    match ← chatAsk (.selectPending FLUSH_BATCH) with
    | .ok pending => forwardRows d context pending 0
    | .failed _ reason => .fail (.error reason)
  else return 0

end ChatOutboxForwarder

/-! ### The service -/

namespace SupportService

/-- By `SendMessageSchema`, both texts are non-empty and the message has at most 2000
code units. -/
def validMessage (userId text : String) : Bool :=
  userId ≠ "" && text ≠ "" && (encode utf16 text).length ≤ 2000

def sendMessage (settings : ChatSettings) (context : Option RequestContext)
    (userId text messageId : String) : ChatTask JsValue := do
  if validMessage userId text then
    let world ← Task.read
    match ← chatAsk (.insert ⟨messageId, userId, text, world.now, none⟩) with
    | .ok _ =>
        Task.start (.inr (.flushOnce context))
        return .obj [("sent", .bool true), ("messageId", .str messageId)]
    | .failed _ reason => .fail (.error reason)
  else
    .fail (.validation (settings.rejection (.obj [("userId", .str userId), ("text", .str text)])))

def conversationInvocation (context : Option RequestContext) (userId : String) : Invocation where
  context := context
  portName := "cskh-chat"
  method := "get-conversation"
  params := .obj [("userId", .str userId)]
  idempotencyKey := none

def localMessage (row : OutboxRow) : JsValue :=
  .obj [("id", .str row.messageId), ("content", .str row.text), ("direction", .str "INBOUND"),
    ("senderType", .str "CUSTOMER"), ("createdAt", .str (JsValue.toISOString row.createdAt))]

/-- The instants of a thread; a message without one makes the comparison throw. -/
def creationOf (message : JsValue) : Option String :=
  match message.field "createdAt" with
  | .str text => some text
  | _ => none

def sortThread (messages : List JsValue) : Option (List JsValue) :=
  if messages.length ≤ 1 ∨ messages.all (fun message => (creationOf message).isSome) then
    some (messages.insertionSort fun left right =>
      (creationOf left).getD "" ≤ (creationOf right).getD "")
  else none

def mergeThread (data : JsValue) (rows : List OutboxRow) : Option JsValue :=
  let merged (server : List JsValue) : Option JsValue :=
    let ids := server.map (JsValue.field "id")
    let unseen := rows.filter fun row => !ids.contains (.str row.messageId)
    let conversationId := data.field "conversationId"
    (sortThread (server ++ unseen.map localMessage)).map fun messages =>
      .obj [("conversationId", if conversationId.isNullish then .null else conversationId),
        ("messages", .arr messages)]
  match data.field "messages" with
  | .arr server => merged server
  | messages => if messages.isNullish then merged [] else none

def getConversation (d : Deployment chat) (context : Option RequestContext) (userId : String) :
    ChatTask JsValue := do
  let result ← PortRegistry.execute d (conversationInvocation context userId)
  match ← chatAsk (.selectByUser userId) with
  | .failed _ reason => .fail (.error reason)
  | .ok rows =>
      match mergeThread result.data rows with
      | some thread => return thread
      | none => .fail (.error "TypeError")

end SupportService

/-! ### The process -/

/-- The chat port has its own adapter, for mock and live alike; what other ports do
is left open. -/
def chatDeployment (wiring : Wiring) (settings : ChatSettings) : Deployment chat where
  toWiring := wiring
  adapter ref context method params :=
    if ref.portName = "cskh-chat" then CskhChatAdapter.execute settings method params
    else remoteAdapter ref context method params
  environment := .any

def chatBody (wiring : Wiring) (settings : ChatSettings) : ChatCall → ChatTask Resolution
  | .sendMessage context userId text messageId => do
      let value ← SupportService.sendMessage settings context userId text messageId
      return .value value
  | .getConversation context userId => do
      let value ← SupportService.getConversation (chatDeployment wiring settings) context userId
      return .value value
  | .flushOnce context => do
      let forwarded ←
        ChatOutboxForwarder.flushOnce (chatDeployment wiring settings) settings context
      return .value (.num forwarded)

def chatService (wiring : Wiring) (settings : ChatSettings) : Service chat where
  body := chatBody wiring settings
  perform := performChat

abbrev chatSystem (wiring : Wiring) (settings : ChatSettings) :
    System (portSignature chat) Resolution PortExternal :=
  portSystem (chatDeployment wiring settings) (chatService wiring settings)

end SelfService
