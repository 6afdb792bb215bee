/-
The port registry: registration, execution, fallback, queueing and replay.

`execute` follows the source branch by branch.  Whatever runs between two
awaits is one segment of the task.
-/

import SelfService.Port.World

namespace SelfService

open Data EventLoop

variable {X : Extension}

/-! ### Registration -/

namespace PortRegistry

def DEFAULT_TTL_BY_TIER : CacheTier → Nat
  | .static => 43200
  | .dynamic => 900
  | .transaction => 0

def defaultQueuePolicy : CacheTier → QueuePolicy
  | .transaction => .always
  | _ => .onCacheMiss

def breakerOptions (name : String) (config : Option PortCircuitBreakerConfig) :
    CircuitBreakerOptions where
  errorThreshold := (config.map PortCircuitBreakerConfig.errorThreshold).getD 50
  resetTimeout := (config.map PortCircuitBreakerConfig.resetTimeout).getD 10000
  minRequests := (config.map PortCircuitBreakerConfig.minRequests).getD 5
  timeout := 0
  name := name

/-- The configuration a port is registered with; a port without an entry in the
YAML file is never queued. -/
def resolveConfig (name : String) : Option PortEndpointConfig → PortConfig
  | some endpoint =>
      { name := name
        cacheTier := endpoint.cacheTier
        cacheTtl := endpoint.cacheTtl.getD (DEFAULT_TTL_BY_TIER endpoint.cacheTier)
        timeout := endpoint.timeout
        queuePolicy := endpoint.queuePolicy.getD (defaultQueuePolicy endpoint.cacheTier)
        circuitBreaker := breakerOptions name endpoint.circuitBreaker
        active := true }
  | none =>
      { name := name
        cacheTier := .dynamic
        cacheTtl := DEFAULT_TTL_BY_TIER .dynamic
        timeout := 3000
        queuePolicy := .never
        circuitBreaker := breakerOptions name none
        active := true }

/-- A `register` without overrides, as every module calls it. -/
def register (name : String) (world : World X) : World X :=
  let config := resolveConfig name (world.endpointConfig.get? name)
  { world with
    circuitBreakers :=
      world.circuitBreakers.set name (.new config.circuitBreaker world.now)
    fallbacks := world.fallbacks ++ [name]
    ports := world.ports.set name ⟨name, config⟩ }

/-- A process that has just started: everything but the cache is empty. -/
def bareWorld (now : Nat) (cache : Store) (endpointConfig : OrderedMap String PortEndpointConfig)
    (service : X.State) : World X where
  now := now
  cache := cache
  ports := .empty
  circuitBreakers := .empty
  fallbacks := []
  fallbackCache := .empty
  endpointConfig := endpointConfig
  mockMode := false
  jobs := []
  service := service

def registerAll (names : List String) (world : World X) : World X :=
  names.foldl (fun world name => register name world) world

def readEndpoint (cacheTier : CacheTier) (cacheTtl : Nat) : PortEndpointConfig where
  adapter := .mock
  timeout := 3000
  cacheTier := cacheTier
  cacheTtl := some cacheTtl
  queuePolicy := none
  circuitBreaker := some ⟨50, 10000, 5⟩

def transactionEndpoint (timeout : Nat) (queuePolicy : Option QueuePolicy) :
    PortEndpointConfig where
  adapter := .mock
  timeout := timeout
  cacheTier := .transaction
  cacheTtl := none
  queuePolicy := queuePolicy
  circuitBreaker := some ⟨30, 30000, 3⟩

/-- The entries of `config/api-endpoints.yaml`. -/
def apiEndpoints : OrderedMap String PortEndpointConfig :=
  [("auth", { readEndpoint .static 43200 with queuePolicy := some .never }),
    ("customer-profile", readEndpoint .static 43200),
    ("contract", readEndpoint .static 43200),
    ("meter", readEndpoint .static 43200),
    ("meter-reading", readEndpoint .dynamic 900),
    ("tariff", readEndpoint .static 43200),
    ("invoice", readEndpoint .dynamic 900),
    ("payment", transactionEndpoint 5000 (some .always)),
    ("payment-webhook", transactionEndpoint 3000 none),
    ("payment-history", readEndpoint .dynamic 900),
    ("auto-debit", readEndpoint .static 43200),
    ("debt", readEndpoint .dynamic 900)].foldl
    (fun endpoints entry => endpoints.set entry.1 entry.2) .empty

/-! ### Names and keys -/

def mutationVerbs : List String :=
  ["create", "update", "delete", "remove", "add", "insert", "save", "send", "submit", "dispatch",
    "pay", "setup", "initiate", "retry", "cancel", "confirm", "generate", "register", "verify",
    "login", "logout", "refresh", "link", "unlink", "close", "archive", "assign", "sign", "post",
    "put"]

def isMutationMethod (method : String) : Bool :=
  mutationVerbs.any fun verb => verb.toList.isPrefixOf method.toList

def portPattern (portName : String) : String := "cache:v2:port:" ++ portName ++ ":*"

def cacheKeyOf (portName : String) (hash : ShortHash) : String :=
  "cache:v2:port:" ++ portName ++ ":" ++ hash.text

/-- The hash is taken over the JSON text of `{ method, params }`. -/
def buildCacheKey (d : Deployment X) (portName method : String) (params : JsValue) : String :=
  cacheKeyOf portName
    (d.jsonHash (JsValue.obj [("method", .str method), ("params", params)]).roundTrip)

theorem portPattern_head (portName : String) : ∃ text, (portPattern portName).toList = 'c' :: text := by
  unfold portPattern
  rw [String.append_assoc, String.toList_append]
  exact ⟨_, rfl⟩

theorem cacheKeyOf_head (portName : String) (hash : ShortHash) :
    ∃ text, (cacheKeyOf portName hash).toList = 'c' :: text := by
  unfold cacheKeyOf
  rw [String.append_assoc, String.append_assoc, String.toList_append]
  exact ⟨_, rfl⟩

end PortRegistry

/-! ### Inbound idempotency -/

namespace InboundIdempotencyService

def DEFAULT_TTL : Nat := 86400

def cacheKeyOf (hash : ShortHash) : String := "idempotency:" ++ hash.text

def buildCacheKey (d : Deployment X) (rawKey : String) : String := cacheKeyOf (d.textHash rawKey)

/-- The recorded result, or `null` for a miss. -/
def check (d : Deployment X) (rawKey : String) : PortTask X JsValue :=
  CacheService.get (buildCacheKey d rawKey)

/-- Failures to store are logged and forgotten. -/
def store (d : Deployment X) (rawKey : String) (result : JsValue) : PortTask X Unit := do
  let _ ← (CacheService.set (buildCacheKey d rawKey) result (some DEFAULT_TTL) :
    PortTask X Unit).attempt
  return ()

end InboundIdempotencyService

theorem recordKey_head (hash : ShortHash) :
    ∃ text, (InboundIdempotencyService.cacheKeyOf hash).toList = 'i' :: text := by
  unfold InboundIdempotencyService.cacheKeyOf
  rw [String.toList_append]
  exact ⟨_, rfl⟩

/-- The two kinds of keys begin with different letters. -/
theorem recordKey_ne (hash other : ShortHash) (portName : String) :
    InboundIdempotencyService.cacheKeyOf hash ≠ PortRegistry.cacheKeyOf portName other := by
  intro same
  obtain ⟨text, record⟩ := recordKey_head hash
  obtain ⟨rest, port⟩ := PortRegistry.cacheKeyOf_head portName other
  rw [same, port] at record
  simp at record

/-! ### Fallback -/

namespace FallbackProvider

def getCached (world : World X) (key : String) : JsValue :=
  (world.fallbackCache.get? key).getD .undefined

def setCached (key : String) (value : JsValue) (world : World X) : World X :=
  { world with fallbackCache := world.fallbackCache.set key value }

/-- The fallback that `register` installs serves the port's slot.  Without a slot,
or without a fallback, the error that brought us here is thrown again. -/
def execute (world : World X) (key : String) (error : Exn) : Except Exn JsValue :=
  if world.fallbacks.contains key then
    let cached := getCached world key
    if cached.isNullish then .error error else .ok cached
  else .error error

end FallbackProvider

/-! ### Queue -/

namespace QueueService

def enqueue (d : Deployment X) (payload : ReplayJobPayload) : PortTask X String :=
  match d.queueService with
  | some true =>
      .await (.inl (.queueAdd payload)) fun
        | .ok jobId => .done (jobId.getD "unknown")
        | .failed _ reason => .fail (.error reason)
  | _ => .fail (.error "Queue tier disabled (no Redis)")

end QueueService

/-! ### Execution -/

namespace PortRegistry

def currentContext (invocation : Invocation) : RequestContext :=
  match invocation.context with
  | some context => context
  | none => ⟨"no-correlation-id", none, none, none⟩

def replayPayload (invocation : Invocation) : ReplayJobPayload where
  portName := invocation.portName
  method := invocation.method
  params := invocation.params
  idempotencyKey := invocation.idempotencyKey
  context := currentContext invocation

/-- MOCK_MODE first, then the adapter field of the YAML entry, then live. -/
def adapterUsed (world : World X) (portName : String) : AdapterKind :=
  if world.mockMode then .mock
  else
    match world.endpointConfig.get? portName with
    | some endpoint => endpoint.adapter
    | none => .live

def degradedResult (adapter : AdapterKind) (startTime now : Nat) (message : String)
    (data : JsValue) : PortResult where
  data := data
  adapterUsed := adapter
  fromCache := true
  duration := now - startTime
  metadata := some
    { cachedAt := .str (JsValue.toISOString now)
      degraded := true
      message := some message
      fromIdempotency := false }

def executeFallback (invocation : Invocation) (adapter : AdapterKind) (startTime : Nat)
    (originalError : Option Exn) : PortTask X PortResult :=
  .sync id fun world =>
    let error := originalError.getD
      (.error ("Circuit breaker open for " ++ invocation.portName))
    match FallbackProvider.execute world invocation.portName error with
    | .ok data =>
        .mark (.inl (.fellBack invocation data))
          (.done (degradedResult adapter startTime world.now
            "Service temporarily unavailable, serving cached data" data))
    | .error _ => .fail (.portFallback invocation.portName error)

def enqueueAndReject (d : Deployment X) (invocation : Invocation) : PortTask X PortResult := do
  let jobId ← QueueService.enqueue d (replayPayload invocation)
  .fail (.portQueued invocation.portName jobId)

def executeWithQueue (d : Deployment X) (invocation : Invocation) (entry : PortEntry)
    (adapter : AdapterKind) (startTime : Nat) (originalError : Option Exn) :
    PortTask X PortResult :=
  if entry.config.queuePolicy = .never ∨ d.queueService = none then
    executeFallback invocation adapter startTime originalError
  else if entry.config.queuePolicy = .onCacheMiss then
    .sync id fun world =>
      let cached := FallbackProvider.getCached world invocation.portName
      if cached.isNullish then enqueueAndReject d invocation
      else
        .fork (.inl (.refresh invocation))
          (.mark (.inl (.fellBack invocation cached))
            (.done (degradedResult adapter startTime world.now
              "Service temporarily unavailable, serving cached data (refresh queued)" cached)))
  else enqueueAndReject d invocation

def setBreaker (portName : String) (change : CircuitBreakerState → CircuitBreakerState)
    (world : World X) : World X :=
  match world.circuitBreakers.get? portName with
  | some breaker =>
      { world with circuitBreakers := world.circuitBreakers.set portName (change breaker) }
  | none => world

/-- Whether the port's breaker is open and not yet due for a probe. -/
def rejectsNow (world : World X) (portName : String) : Bool :=
  (world.circuitBreakers.get? portName).any fun breaker =>
    breaker.state = .open && !breaker.shouldAttemptReset world.now

/-- An open breaker that is due for a probe becomes half open. -/
def admitProbe (portName : String) (world : World X) : World X :=
  setBreaker portName (fun breaker =>
    if breaker.state = .open then breaker.halfOpen world.now else breaker) world

def noteSuccess (portName : String) (world : World X) : World X :=
  setBreaker portName (CircuitBreakerState.recordSuccess world.now) world

def noteFailure (portName : String) (error : Exn) (world : World X) : World X :=
  setBreaker portName (fun breaker =>
    let recorded := breaker.recordFailure world.now error
    if recorded.shouldOpen then recorded.open world.now else recorded) world

/-- The write-through invalidation after a mutation; nobody waits for it. -/
def invalidatePort (d : Deployment X) (invocation : Invocation) : PortTask X Unit :=
  match d.backend.kind with
  | .memory =>
      Task.modify fun world =>
        { world with
          cache := (MemoryCacheService.deleteByPattern d.backend.options
            (portPattern invocation.portName) world.cache).2 }
  | .redis => .fork (.inl (.invalidate invocation)) (.done ())

def shouldCache (entry : PortEntry) (method : String) : Bool :=
  !isMutationMethod method && entry.config.cacheTier ≠ .transaction && 0 < entry.config.cacheTtl

/-- A cacheable result is written with its insertion time; a failed write is
logged and forgotten. -/
def writeCache (d : Deployment X) (invocation : Invocation) (entry : PortEntry)
    (data : JsValue) : PortTask X Unit :=
  if shouldCache entry invocation.method then
    .sync id fun world => do
      let cachedAt := JsValue.str (JsValue.toISOString world.now)
      let _ ← (CacheService.set
        (buildCacheKey d invocation.portName invocation.method invocation.params)
        (.obj [("data", data), ("cachedAt", cachedAt)]) (some entry.config.cacheTtl) :
        PortTask X Unit).attempt
      return ()
  else .done ()

def fillSlot (invocation : Invocation) (data : JsValue) : PortTask X Unit :=
  .sync (FallbackProvider.setCached invocation.portName data) fun _ =>
    .mark (.inl (.slotFilled invocation data)) (.done ())

def recordResult (d : Deployment X) (invocation : Invocation) (data : JsValue) :
    PortTask X Unit :=
  match invocation.idempotencyKey with
  | some rawKey =>
      if rawKey ≠ "" && d.idempotencyService then InboundIdempotencyService.store d rawKey data
      else .done ()
  | none => .done ()

/-- What follows a successful adapter call. -/
def postProcess (d : Deployment X) (invocation : Invocation) (entry : PortEntry)
    (data : JsValue) : PortTask X Unit := do
  if isMutationMethod invocation.method then
    invalidatePort d invocation
  writeCache d invocation entry data
  fillSlot invocation data
  recordResult d invocation data

/-- The adapter call, whose rejection is a value for what follows. -/
def callAdapter (d : Deployment X) (adapter : AdapterKind) (invocation : Invocation) :
    PortTask X (Except Exn JsValue) := do
  let outcome ← (d.adapter ⟨invocation.portName, adapter⟩ invocation.context
    invocation.method invocation.params).attempt
  Task.note (.inl (.settled adapter invocation outcome))
  return outcome

/-- The part of `execute` from the circuit breaker on. -/
def executeThroughBreaker (d : Deployment X) (invocation : Invocation) (entry : PortEntry)
    (adapter : AdapterKind) (startTime : Nat) : PortTask X PortResult := do
  let world ← Task.read
  if rejectsNow world invocation.portName then
    executeWithQueue d invocation entry adapter startTime none
  else
    Task.modify (admitProbe invocation.portName)
    let outcome ← callAdapter d adapter invocation
    match outcome with
    | .ok data =>
        let world ← Task.read
        Task.modify (noteSuccess invocation.portName)
        postProcess d invocation entry data
        return {
          data := data
          adapterUsed := adapter
          fromCache := false
          duration := world.now - startTime
          metadata := none }
    | .error originalError =>
        Task.modify (noteFailure invocation.portName originalError)
        executeWithQueue d invocation entry adapter startTime (some originalError)

/-- The part of `execute` from the read cache on. -/
def executeThroughCache (d : Deployment X) (invocation : Invocation) (entry : PortEntry)
    (adapter : AdapterKind) (startTime : Nat) : PortTask X PortResult := do
  if shouldCache entry invocation.method then
    let cachedEntry ← CacheService.get
      (buildCacheKey d invocation.portName invocation.method invocation.params)
    let world ← Task.read
    if cachedEntry.isNullish then
      executeThroughBreaker d invocation entry adapter startTime
    else
      return {
        data := cachedEntry.field "data"
        adapterUsed := adapter
        fromCache := true
        duration := world.now - startTime
        metadata := some
          { cachedAt := cachedEntry.field "cachedAt"
            degraded := false
            message := none
            fromIdempotency := false } }
  else executeThroughBreaker d invocation entry adapter startTime

def executeRegistered (d : Deployment X) (invocation : Invocation) (entry : PortEntry)
    (adapter : AdapterKind) (startTime : Nat) : PortTask X PortResult :=
  match invocation.idempotencyKey with
  | some rawKey =>
      if rawKey ≠ "" && d.idempotencyService then do
        let recorded ← InboundIdempotencyService.check d rawKey
        let world ← Task.read
        if recorded.isNullish then
          executeThroughCache d invocation entry adapter startTime
        else
          return {
            data := recorded
            adapterUsed := adapter
            fromCache := true
            duration := world.now - startTime
            metadata := some
              { cachedAt := .undefined
                degraded := false
                message := none
                fromIdempotency := true } }
      else executeThroughCache d invocation entry adapter startTime
  | none => executeThroughCache d invocation entry adapter startTime

def execute (d : Deployment X) (invocation : Invocation) : PortTask X PortResult := do
  Task.note (.inl (.requested invocation))
  let world ← Task.read
  match world.ports.get? invocation.portName with
  | none => .fail (.portNotRegistered invocation.portName)
  | some entry =>
      executeRegistered d invocation entry (adapterUsed world invocation.portName) world.now

/-- A replay runs the live adapter directly: no queue, no breaker, no cache. -/
def executeReplay (d : Deployment X) (payload : ReplayJobPayload) : PortTask X JsValue := do
  let world ← Task.read
  match world.ports.get? payload.portName with
  | none => .fail (.portNotRegistered payload.portName)
  | some _ =>
      match ← callAdapter d .live payload.invocation with
      | .ok data =>
          fillSlot payload.invocation data
          return data
      | .error error => .fail error

end PortRegistry

/-! ### The process -/

/-- The code of a service: its calls, and how its own requests are served. -/
structure Service (X : Extension) where
  body : X.Call → PortTask X Resolution
  perform : X.State → (request : X.Req) → X.Ans request → Option X.State

/-- A worker replays a job only while the queue holds it. -/
def portBody (d : Deployment X) : PortCall → PortTask X Resolution
  | .execute invocation => do
      let result ← PortRegistry.execute d invocation
      return .port result
  | .replay payload => do
      let world ← Task.read
      if payload ∈ world.jobs then
        let data ← PortRegistry.executeReplay d payload
        return .value data
      else .fail (.error "No such job")
  | .invalidate cause => do
      let _ ← (CacheService.deleteByPattern d.backend.kind
        (PortRegistry.portPattern cause.portName) : PortTask X Nat).attempt
      return .nothing
  | .refresh cause => do
      let _ ← (QueueService.enqueue d (PortRegistry.replayPayload cause)).attempt
      return .nothing

def portSystem (d : Deployment X) (service : Service X) :
    System (portSignature X) Resolution PortExternal where
  body
    | .inl call => portBody d call
    | .inr call => service.body call
  perform world
    | .inl request, answer => performPort d world request answer
    | .inr request, answer =>
        (service.perform world.service request answer).map fun state =>
          { world with service := state }
  external := World.external d
  clock := World.now

/-! ### The registry on its own -/

/-- No service: only callers of the registry, the queue worker and time. -/
def registryOnly : Extension where
  State := Unit
  Req := Empty
  Ans := Empty.elim
  Mark := Empty
  Call := Empty

instance : DecidableEq (portSignature registryOnly).Req :=
  inferInstanceAs (DecidableEq (PortRequest ⊕ Empty))

def noService : Service registryOnly where
  body call := call.elim
  perform _ request _ := request.elim

/-- Adapters that may answer anything at any time. -/
def Wiring.remote (wiring : Wiring) : Deployment registryOnly where
  toWiring := wiring
  adapter := remoteAdapter
  environment := .any

abbrev Wiring.registry (wiring : Wiring) :
    System (portSignature registryOnly) Resolution PortExternal :=
  portSystem wiring.remote noService

end SelfService
