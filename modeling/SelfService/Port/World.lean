/-
The process that hosts the port registry.

The registry's maps, the cache, the clock and the replay queue form one shared
memory.  A service built on the registry extends it with its own state,
requests, marks and calls, so that everything that can interleave in the
process interleaves in one event loop.
-/

import SelfService.Caching.CacheService
import SelfService.EventLoop.Safety
import SelfService.Resilience.CircuitBreaker

namespace SelfService

open Data EventLoop

inductive CacheTier : Type
  | static
  | dynamic
  | transaction
  deriving DecidableEq, Repr

inductive QueuePolicy : Type
  | never
  | onCacheMiss
  | always
  deriving DecidableEq, Repr

inductive AdapterKind : Type
  | mock
  | live
  deriving DecidableEq, Repr

structure PortCircuitBreakerConfig where
  errorThreshold : Nat
  resetTimeout : Nat
  minRequests : Nat
  deriving DecidableEq, Repr

/-- One service of `api-endpoints.yaml`. -/
structure PortEndpointConfig where
  adapter : AdapterKind
  timeout : Nat
  cacheTier : CacheTier
  cacheTtl : Option Nat
  queuePolicy : Option QueuePolicy
  circuitBreaker : Option PortCircuitBreakerConfig
  deriving DecidableEq, Repr

structure PortConfig where
  name : String
  cacheTier : CacheTier
  cacheTtl : Nat
  timeout : Nat
  queuePolicy : QueuePolicy
  circuitBreaker : CircuitBreakerOptions
  active : Bool
  deriving DecidableEq, Repr

/-- A registered port; its two adapters are known by the port's name. -/
structure PortEntry where
  name : String
  config : PortConfig
  deriving DecidableEq, Repr

structure AdapterRef where
  portName : String
  kind : AdapterKind
  deriving DecidableEq, Repr

structure RequestContext where
  correlationId : String
  userId : Option String
  tenantId : Option String
  metadata : Option JsValue
  deriving DecidableEq

structure ReplayJobPayload where
  portName : String
  method : String
  params : JsValue
  idempotencyKey : Option String
  context : RequestContext
  deriving DecidableEq

/-- The arguments of one `execute`, with the request context it runs in. -/
structure Invocation where
  context : Option RequestContext
  portName : String
  method : String
  params : JsValue
  idempotencyKey : Option String
  deriving DecidableEq

/-- A replay repeats the call that was queued, in the context it was queued with. -/
def ReplayJobPayload.invocation (payload : ReplayJobPayload) : Invocation where
  context := some payload.context
  portName := payload.portName
  method := payload.method
  params := payload.params
  idempotencyKey := payload.idempotencyKey

structure PortResultMetadata where
  cachedAt : JsValue
  degraded : Bool
  message : Option String
  fromIdempotency : Bool
  deriving DecidableEq

structure PortResult where
  data : JsValue
  adapterUsed : AdapterKind
  fromCache : Bool
  duration : Nat
  metadata : Option PortResultMetadata
  deriving DecidableEq

def PortResult.degraded (result : PortResult) : Bool :=
  result.metadata.any PortResultMetadata.degraded

def PortResult.fromIdempotency (result : PortResult) : Bool :=
  result.metadata.any PortResultMetadata.fromIdempotency

def IsHex (text : String) : Prop :=
  ∀ symbol ∈ text.toList, symbol ∈ "0123456789abcdef".toList

instance (text : String) : Decidable (IsHex text) := List.decidableBAll _ _

/-- Sixteen hexadecimal digits of a SHA-256 hash. -/
structure ShortHash where
  text : String
  hex : IsHex text

/-- The hash of the empty text. -/
theorem isHex_empty : IsHex "e3b0c44298fc1c14" := by decide +kernel

/-- The hash of the sample parameters. -/
theorem isHex_params : IsHex "d29ad42d4a509ebb" := by decide +kernel

/-- The hash of the sample key. -/
theorem isHex_key : IsHex "7b409f932d2c88e9" := by decide +kernel

/-! ### The extensible signature -/

/-- What a service adds to the process. -/
structure Extension where
  State : Type
  Req : Type
  Ans : Req → Type
  Mark : Type
  Call : Type

inductive PortRequest : Type
  | cache (command : CacheCommand)
  | adapter (ref : AdapterRef) (context : Option RequestContext) (method : String)
      (params : JsValue)
  | queueAdd (payload : ReplayJobPayload)
  deriving DecidableEq

abbrev PortRequest.Answer : PortRequest → Type
  | .cache command => command.Answer
  | .adapter _ _ _ _ => Except Exn JsValue
  | .queueAdd _ => Reply (Option String)

/-- What the registry lets an observer see: a call that enters `execute`, an
adapter call that settles, a fallback slot that is filled, and a call that is
answered from its port's slot. -/
inductive PortMark : Type
  | requested (invocation : Invocation)
  | settled (adapter : AdapterKind) (invocation : Invocation) (outcome : Except Exn JsValue)
  | slotFilled (invocation : Invocation) (data : JsValue)
  | fellBack (invocation : Invocation) (data : JsValue)

/-- Calls of `invalidate` and `refresh` are the promises nobody awaits, with the call that
started them. -/
inductive PortCall : Type
  | execute (invocation : Invocation)
  | replay (payload : ReplayJobPayload)
  | invalidate (cause : Invocation)
  | refresh (cause : Invocation)

structure World (X : Extension) where
  now : Nat
  cache : Store
  ports : OrderedMap String PortEntry
  circuitBreakers : OrderedMap String CircuitBreakerState
  fallbacks : List String
  fallbackCache : OrderedMap String JsValue
  endpointConfig : OrderedMap String PortEndpointConfig
  mockMode : Bool
  jobs : List ReplayJobPayload
  service : X.State

/-- What a call resolves with. -/
inductive Resolution : Type
  | nothing
  | value (value : JsValue)
  | port (result : PortResult)
  deriving DecidableEq

abbrev portSignature (X : Extension) : Signature where
  State := World X
  Req := PortRequest ⊕ X.Req
  Ans
    | .inl request => request.Answer
    | .inr request => X.Ans request
  Mark := PortMark ⊕ X.Mark
  Call := PortCall ⊕ X.Call
  Err := Exn

instance (X : Extension) : CacheAccess (portSignature X) where
  request command := .inl (.cache command)
  answered _ := rfl
  reject := id

abbrev PortTask (X : Extension) := Task (portSignature X)

/-- How the application was put together.  `queueService` is absent, or carries
its `enabled` flag.  The hashes are SHA-256 of a text and of the JSON text of a
value. -/
structure Wiring where
  backend : Backend
  idempotencyService : Bool
  queueService : Option Bool
  textHash : String → ShortHash
  jsonHash : JsValue → ShortHash

/-- The wiring of the modules: the queue is enabled when Redis is configured. -/
def Wiring.configured (redisHost : Bool) (textHash : String → ShortHash)
    (jsonHash : JsValue → ShortHash) : Wiring where
  backend := .configured redisHost
  idempotencyService := true
  queueService := some redisHost
  textHash := textHash
  jsonHash := jsonHash

/-- An adapter is whatever code was registered for the port.  The environment is
that of the cache. -/
structure Deployment (X : Extension) extends Wiring where
  adapter : AdapterRef → Option RequestContext → String → JsValue → PortTask X JsValue
  environment : CacheEnvironment

/-- An adapter whose whole work is done elsewhere. -/
def remoteAdapter {X : Extension} (ref : AdapterRef) (context : Option RequestContext)
    (method : String) (params : JsValue) : PortTask X JsValue :=
  .await (.inl (.adapter ref context method params)) fun outcome => Task.settleWith outcome

/-! ### The environment -/

section Environment

variable {X : Extension} (d : Deployment X)

def performPort (world : World X) :
    (request : PortRequest) → request.Answer → Option (World X)
  | .cache command, answer =>
      if d.environment.answers world.now world.cache command answer then
        (d.backend.perform world.now world.cache command answer).map fun cache =>
          { world with cache := cache }
      else none
  | .adapter _ _ _ _, _ => some world
  | .queueAdd payload, .ok _ => some { world with jobs := world.jobs ++ [payload] }
  | .queueAdd payload, .failed applied _ =>
      some (if applied then { world with jobs := world.jobs ++ [payload] } else world)

theorem performPort_cache {d : Deployment X} {world after : World X} {command : CacheCommand}
    {answer : command.Answer} (performed : performPort d world (.cache command) answer = some after) :
    d.environment.answers world.now world.cache command answer = true ∧
      ∃ cache, d.backend.perform world.now world.cache command answer = some cache ∧
        after = { world with cache := cache } := by
  obtain ⟨allowed, served⟩ := Option.ite_none_right_eq_some.mp performed
  obtain ⟨cache, served, same⟩ := Option.map_eq_some_iff.mp served
  exact ⟨allowed, cache, served, same.symm⟩

/-- Time passes, the cache loses an entry, or the endpoint configuration is
reloaded. -/
inductive PortExternal : Type
  | tick (millis : Nat)
  | evict (fullKey : String)
  | reload (mockMode : Bool) (endpointConfig : OrderedMap String PortEndpointConfig)

def World.external (world : World X) : PortExternal → Option (World X)
  | .tick millis => some { world with now := world.now + millis }
  | .evict fullKey =>
      if d.environment.drops world.now world.cache fullKey then
        some { world with cache := world.cache.erase fullKey }
      else none
  | .reload mockMode endpointConfig =>
      some { world with mockMode := mockMode, endpointConfig := endpointConfig }

theorem external_cases {d : Deployment X} {world after : World X} {event : PortExternal}
    (moved : World.external d world event = some after) :
    (∃ millis, after = { world with now := world.now + millis }) ∨
      (∃ fullKey, d.environment.drops world.now world.cache fullKey = true ∧
        after = { world with cache := world.cache.erase fullKey }) ∨
      ∃ mockMode endpointConfig,
        after = { world with mockMode := mockMode, endpointConfig := endpointConfig } := by
  cases event with
  | tick millis =>
      left
      exact ⟨millis, (Option.some.inj moved).symm⟩
  | evict fullKey =>
      right
      left
      obtain ⟨allowed, moved⟩ := Option.ite_none_right_eq_some.mp moved
      exact ⟨fullKey, allowed, (Option.some.inj moved).symm⟩
  | reload mockMode endpointConfig =>
      right
      right
      exact ⟨mockMode, endpointConfig, (Option.some.inj moved).symm⟩

end Environment

end SelfService
