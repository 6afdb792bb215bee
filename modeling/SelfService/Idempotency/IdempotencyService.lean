/-
The idempotency service for commands.

A processed command leaves an envelope with its result and two dates, in the
cache service or, without one, in a map of the process.  A lookup reads a date
of the envelope before it answers, and every error inside it counts as a miss.
-/

import SelfService.EventLoop.Alone
import SelfService.Port.Registry

namespace SelfService

open Data EventLoop

/-- The part of the options that this service reads. -/
structure IdempotencyOptions where
  ttlSeconds : Option Nat
  keyPrefix : Option String

/-- An envelope and the instant it expires. -/
structure MemoryEntry where
  result : JsValue
  expiresAt : Nat
  deriving DecidableEq

abbrev MemoryStore := OrderedMap String MemoryEntry

/-- Where an instance keeps its envelopes: whether a cache service was injected, and
the place of its own map in the state of the process. -/
structure IdempotencyHost (X : Extension) where
  cacheService : Bool
  memoryStore : X.State → MemoryStore
  setMemoryStore : MemoryStore → X.State → X.State
  kept : ∀ store state, memoryStore (setMemoryStore store state) = store

namespace IdempotencyService

def DEFAULT_TTL : Nat := 3600

def DEFAULT_PREFIX : String := "idempotency"

def buildCacheKey (idempotencyKey : String) (options : Option IdempotencyOptions) : String :=
  (options.bind IdempotencyOptions.keyPrefix).getD DEFAULT_PREFIX ++ ":" ++ idempotencyKey

def ttlOf (options : Option IdempotencyOptions) : Nat :=
  (options.bind IdempotencyOptions.ttlSeconds).getD DEFAULT_TTL

def envelope (now : Nat) (result : JsValue) (commandType : String) (ttl : Nat) : JsValue :=
  .obj [("result", result), ("storedAt", .date now), ("expiresAt", .date (now + ttl * 1000)),
    ("commandType", .str commandType)]

/-- Entries whose time is over are dropped. -/
def cleanupMemoryStore (now : Nat) (store : MemoryStore) : MemoryStore :=
  store.eraseWhere fun key => (store.get? key).any fun entry => entry.expiresAt < now

variable {X : Extension} (host : IdempotencyHost X)

def updateMemoryStore (update : MemoryStore → MemoryStore) (world : World X) : World X :=
  { world with
    service := host.setMemoryStore (update (host.memoryStore world.service)) world.service }

def notADate : Exn := .error "TypeError: cached.storedAt.toISOString is not a function"

/-- A hit is logged with the date it was stored at; only a `Date` has `toISOString`. -/
def checked (cached : JsValue) : PortTask X JsValue :=
  if cached.truthy then
    match cached.field "storedAt" with
    | .date _ => .done cached
    | _ => .fail notADate
  else .done .null

/-- The lookup inside its `try`. -/
def lookup (cacheKey : String) : PortTask X JsValue := do
  let cached ← CacheService.get cacheKey
  checked cached

def getExisting (idempotencyKey : String) (options : Option IdempotencyOptions) :
    PortTask X JsValue :=
  let cacheKey := buildCacheKey idempotencyKey options
  if host.cacheService then do
    match ← (lookup cacheKey : PortTask X JsValue).attempt with
    | .ok cached => return cached
    | .error _ => return .null
  else do
    let world ← Task.read
    match (host.memoryStore world.service).get? cacheKey with
    | none => return .null
    | some entry =>
        if world.now < entry.expiresAt then return entry.result
        else do
          Task.modify (updateMemoryStore host fun store => store.erase cacheKey)
          return .null

/-- A failed write is logged and forgotten. -/
def store (idempotencyKey : String) (result : JsValue) (commandType : String)
    (options : Option IdempotencyOptions) : PortTask X Unit := do
  let cacheKey := buildCacheKey idempotencyKey options
  let ttl := ttlOf options
  let world ← Task.read
  let idempotencyResult := envelope world.now result commandType ttl
  if host.cacheService then
    let _ ← (CacheService.set cacheKey idempotencyResult (some ttl) : PortTask X Unit).attempt
    return ()
  else
    Task.modify (updateMemoryStore host fun store =>
      cleanupMemoryStore world.now
        (store.set cacheKey ⟨idempotencyResult, world.now + ttl * 1000⟩))

def remove (idempotencyKey : String) (options : Option IdempotencyOptions) : PortTask X Unit :=
  let cacheKey := buildCacheKey idempotencyKey options
  if host.cacheService then CacheService.delete cacheKey
  else Task.modify (updateMemoryStore host fun store => store.erase cacheKey)

end IdempotencyService

/-! ### The service on its own -/

inductive IdempotencyCall : Type
  | getExisting (idempotencyKey : String) (options : Option IdempotencyOptions)
  | store (idempotencyKey : String) (result : JsValue) (commandType : String)
      (options : Option IdempotencyOptions)
  | remove (idempotencyKey : String) (options : Option IdempotencyOptions)

/-- A process with the idempotency service next to the registry. -/
def idempotency : Extension where
  State := MemoryStore
  Req := Empty
  Ans := Empty.elim
  Mark := Empty
  Call := IdempotencyCall

instance : DecidableEq (portSignature idempotency).Req :=
  inferInstanceAs (DecidableEq (PortRequest ⊕ Empty))

def idempotencyHost (cacheService : Bool) : IdempotencyHost idempotency where
  cacheService := cacheService
  memoryStore := id
  setMemoryStore store _ := store
  kept _ _ := rfl

def idempotencyDeployment (wiring : Wiring) : Deployment idempotency where
  toWiring := wiring
  adapter := remoteAdapter
  environment := .any

def idempotencyService (cacheService : Bool) : Service idempotency where
  body
    | .getExisting idempotencyKey options => do
        let existing ←
          IdempotencyService.getExisting (idempotencyHost cacheService) idempotencyKey options
        return .value existing
    | .store idempotencyKey result commandType options => do
        IdempotencyService.store (idempotencyHost cacheService) idempotencyKey result commandType
          options
        return .nothing
    | .remove idempotencyKey options => do
        IdempotencyService.remove (idempotencyHost cacheService) idempotencyKey options
        return .nothing
  perform _ request _ := request.elim

abbrev idempotencySystem (wiring : Wiring) (cacheService : Bool) :
    System (portSignature idempotency) Resolution PortExternal :=
  portSystem (idempotencyDeployment wiring) (idempotencyService cacheService)

end SelfService
