/-
The session store over Redis.

A session is a hash with its metadata and a sorted set with its events, under two
keys.  The script that appends an event runs atomically, but a command of it that
fails leaves what the commands before it did.
-/

import Mathlib.Algebra.Group.Int.Defs
import Mathlib.Algebra.Group.Nat.Defs
import Mathlib.Logic.Function.Basic
import SelfService.Core.JsNumber
import SelfService.Core.JsValue
import SelfService.Data.OrderedMap

namespace SelfService

open Data

/-! ### Events -/

inductive SessionEventType : Type
  | zaloMessageReceived
  | callStarted
  | callCompleted
  | ticketCreated
  | ticketStatusChanged
  | paymentCompleted
  | paymentFailed
  | notificationSent
  | invoiceViewed
  | alertAcknowledged
  | sessionStarted
  | sessionContinued
  deriving DecidableEq, Repr

def SessionEventType.text : SessionEventType → String
  | .zaloMessageReceived => "zalo_message_received"
  | .callStarted => "call_started"
  | .callCompleted => "call_completed"
  | .ticketCreated => "ticket_created"
  | .ticketStatusChanged => "ticket_status_changed"
  | .paymentCompleted => "payment_completed"
  | .paymentFailed => "payment_failed"
  | .notificationSent => "notification_sent"
  | .invoiceViewed => "invoice_viewed"
  | .alertAcknowledged => "alert_acknowledged"
  | .sessionStarted => "session_started"
  | .sessionContinued => "session_continued"

inductive ChannelType : Type
  | app
  | zalo
  | web
  | hotline
  | counter
  deriving DecidableEq, Repr

def ChannelType.text : ChannelType → String
  | .app => "app"
  | .zalo => "zalo"
  | .web => "web"
  | .hotline => "hotline"
  | .counter => "counter"

structure SessionEvent where
  id : String
  type : SessionEventType
  channel : ChannelType
  timestamp : String
  content : JsValue
  deriving DecidableEq

def SessionEvent.toJs (event : SessionEvent) : JsValue :=
  .obj [("id", .str event.id), ("type", .str event.type.text),
    ("channel", .str event.channel.text), ("timestamp", .str event.timestamp),
    ("content", event.content)]

/-- A value stands for its JSON text: this is what is parsed out of the text of the event. -/
def SessionEvent.json (event : SessionEvent) : JsValue := event.toJs.roundTrip

structure SessionMetadata where
  sessionId : String
  userId : String
  channel : String
  createdAt : String
  updatedAt : String
  eventCount : Nat
  deriving DecidableEq

/-- `new Date(timestamp).getTime()`, without a value for `NaN`, and the JSON text of a value. -/
structure SessionRuntime where
  getTime : String → Option Int
  stringify : JsValue → String

/-! ### The server -/

/-- Hashes are only written by the script, which sets all their fields. -/
inductive RedisValue : Type
  | hash (fields : SessionMetadata)
  | zset (members : OrderedMap JsValue Int)

structure RedisEntry where
  value : RedisValue
  expiresAt : Option Int

abbrev RedisDb := String → Option RedisEntry

def wrongType : String :=
  "WRONGTYPE Operation against a key holding the wrong kind of value"

namespace RedisDb

def empty : RedisDb := fun _ => none

def put (key : String) (entry : Option RedisEntry) (db : RedisDb) : RedisDb :=
  Function.update db key entry

/-- The entry of a key that has not expired. -/
def live (now : Nat) (key : String) (db : RedisDb) : Option RedisEntry :=
  (db key).filter fun entry => entry.expiresAt.all fun expiry => (now : Int) ≤ expiry

/-- The score is checked before the key is. -/
def zadd (now : Nat) (key : String) (score : Option Int) (member : JsValue) (db : RedisDb) :
    Except String RedisDb :=
  match score with
  | none => .error "ERR value is not a valid float"
  | some score =>
      match db.live now key with
      | none => .ok (db.put key (some ⟨.zset (OrderedMap.empty.set member score), none⟩))
      | some ⟨.zset members, expiresAt⟩ =>
          .ok (db.put key (some ⟨.zset (members.set member score), expiresAt⟩))
      | some ⟨.hash _, _⟩ => .error wrongType

/-- The seconds that `EXPIRE` accepts: their milliseconds are a 64-bit integer, also after
the time is added. -/
def expirySeconds (now : Nat) (ttl : JsNumber) : Option Int :=
  ttl.integer?.filter fun seconds => -2 ^ 63 ≤ seconds * 1000 ∧ now + seconds * 1000 < 2 ^ 63

/-- An expiry that has passed deletes the key. -/
def expire (now : Nat) (key : String) (ttl : JsNumber) (db : RedisDb) : Except String RedisDb :=
  match expirySeconds now ttl with
  | none => .error "ERR value is not an integer or out of range"
  | some seconds =>
      .ok (db.put key (if seconds ≤ 0 then none
        else (db.live now key).map fun entry => ⟨entry.value, some (now + seconds * 1000)⟩))

/-- `HSETNX` of the first four fields, `HGET` of the count, and `HSET`. -/
def hset (now : Nat) (key : String) (fresh : SessionMetadata) (db : RedisDb) :
    Except String RedisDb :=
  match db.live now key with
  | none => .ok (db.put key (some ⟨.hash { fresh with eventCount := 0 + 1 }, none⟩))
  | some ⟨.hash fields, expiresAt⟩ =>
      .ok (db.put key (some ⟨.hash { fields with
        updatedAt := fresh.updatedAt
        eventCount := fields.eventCount + 1 }, expiresAt⟩))
  | some ⟨.zset _, _⟩ => .error wrongType

end RedisDb

/-! ### The store -/

structure AppendCall where
  now : Nat
  userId : String
  event : SessionEvent
  ttl : Option JsNumber
  sessionId : String

namespace RedisSessionStore

def sessionKey (userId : String) : String := "session:" ++ userId

def eventsKey (userId : String) : String := "session:" ++ userId ++ ":events"

section Store

variable (runtime : SessionRuntime) (defaultTtl : JsNumber)

/-- What the script is given for the hash of a new session. -/
def freshMetadata (call : AppendCall) : SessionMetadata where
  sessionId := call.sessionId
  userId := call.userId
  channel := call.event.channel.text
  createdAt := JsValue.toISOString call.now
  updatedAt := JsValue.toISOString call.now
  eventCount := 0

/-- `SESSION_APPEND_LUA`. -/
def appendScript (call : AppendCall) (db : RedisDb) : RedisDb × Except String Unit :=
  let ttl := call.ttl.getD defaultTtl
  match db.zadd call.now (eventsKey call.userId) (runtime.getTime call.event.timestamp)
      call.event.json with
  | .error error => (db, .error error)
  | .ok added =>
      match added.expire call.now (eventsKey call.userId) ttl with
      | .error error => (added, .error error)
      | .ok refreshed =>
          match refreshed.hset call.now (sessionKey call.userId) (freshMetadata call) with
          | .error error => (refreshed, .error error)
          | .ok written =>
              match written.expire call.now (sessionKey call.userId) ttl with
              | .error error => (written, .error error)
              | .ok final => (final, .ok ())

/-- The script is loaded when the module starts; a server that has lost it is sent the
script itself. -/
def appendEvent (call : AppendCall) (db : RedisDb) : RedisDb × Except String Unit :=
  appendScript runtime defaultTtl call db

def getSession (now : Nat) (userId : String) (db : RedisDb) :
    Except String (Option SessionMetadata) :=
  match db.live now (sessionKey userId) with
  | none => .ok none
  | some ⟨.hash fields, _⟩ => .ok (some fields)
  | some ⟨.zset _, _⟩ => .error wrongType

/-- Sorted sets are in the order of their scores, and members of one score in the order of
their texts. -/
def scoredBefore (left right : JsValue × Int) : Bool :=
  left.2 < right.2 ||
    left.2 = right.2 && runtime.stringify left.1 ≤ runtime.stringify right.1

def rangeByScore (first last : JsNumber) (members : OrderedMap JsValue Int) : List JsValue :=
  ((members.entries.mergeSort (scoredBefore runtime)).filter fun entry =>
    first.boundedBy entry.2 && last.bounds entry.2).map Prod.fst

/-- Every member was written as JSON, and is parsed. -/
def getEvents (now : Nat) (userId : String) (first last : JsNumber) (db : RedisDb) :
    Except String (List JsValue) :=
  if first = .nan ∨ last = .nan then .error "ERR min or max is not a float"
  else
    match db.live now (eventsKey userId) with
    | none => .ok []
    | some ⟨.zset members, _⟩ => .ok (rangeByScore runtime first last members)
    | some ⟨.hash _, _⟩ => .error wrongType

end Store

end RedisSessionStore

end SelfService
