/-
The rate limit of a route.

The decorator files its configuration under the name of `target.constructor`, the
guard looks it up under the name of the controller; and the guard counts requests
through a property of the cache service that neither service has.
-/

import SelfService.Caching.CacheService

namespace SelfService

open Data

/-! ### Configuration -/

/-- What the guard and its key generators read of a request. -/
structure GuardedRequest where
  now : Nat
  ip : String
  userId : Option String
  userIdHeader : Option String
  deriving DecidableEq

/-- The window is named `windowMs` and counted in seconds. -/
structure RateLimitConfig where
  limit : Nat
  windowMs : Nat
  keyGenerator : Option (GuardedRequest → String)
  message : String

def RateLimitConfig.window (config : RateLimitConfig) : Nat := config.windowMs * 1000

/-- What a decorator is applied to: a class, or what its methods are on. -/
inductive DecoratorTarget : Type
  | constructor (className : String)
  | prototype (className : String)
  deriving DecidableEq

/-- A class is a function, and its constructor is `Function`. -/
def DecoratorTarget.constructorName : DecoratorTarget → String
  | .constructor _ => "Function"
  | .prototype className => className

abbrev Metadata := List ((DecoratorTarget × String) × RateLimitConfig)

def RATE_LIMIT_CONFIG_KEY : String := "rate_limit_config"

def metadataKey (name : String) : String := RATE_LIMIT_CONFIG_KEY ++ "_" ++ name

/-- A controller or one of its methods, with the configuration it is decorated with. -/
structure RateLimited where
  className : String
  propertyKey : Option String
  config : RateLimitConfig

/-- A method is decorated on the prototype of its class. -/
def RateLimited.target (decorated : RateLimited) : DecoratorTarget :=
  match decorated.propertyKey with
  | some _ => .prototype decorated.className
  | none => .constructor decorated.className

def RateLimited.key (decorated : RateLimited) : String :=
  match decorated.propertyKey with
  | some propertyKey => decorated.target.constructorName ++ "." ++ propertyKey
  | none => decorated.target.constructorName

/-- What the decorators of an application leave behind; a later one comes first. -/
def defineMetadata (decorations : List RateLimited) : Metadata :=
  decorations.reverse.map fun decorated =>
    ((decorated.target, metadataKey decorated.key), decorated.config)

/-- The lookup goes along the prototypes of the class, which are its superclasses. -/
def getMetadata (metadata : Metadata) (key : String) (classes : List String) :
    Option RateLimitConfig :=
  classes.findSome? fun className => metadata.lookup (DecoratorTarget.constructor className, key)

structure GuardedRoute where
  controller : String
  superclasses : List String
  handler : String

/-! ### The guard -/

structure RateLimitResult where
  allowed : Bool
  count : Nat
  resetTime : Nat

/-- The sorted sets of a Redis server: members with their scores. -/
abbrev SortedSets := OrderedMap String (List (String × Nat))

/-- The property `client` of the cache service.  The Redis service keeps its connection
in `redis`, and the one in memory has none. -/
def BackendKind.client : BackendKind → Option SortedSets
  | .memory => none
  | .redis => none

namespace RateLimitGuard

def getRateLimitConfig (metadata : Metadata) (route : GuardedRoute) : Option RateLimitConfig :=
  let classes := route.controller :: route.superclasses
  (getMetadata metadata (metadataKey (route.controller ++ "." ++ route.handler)) classes).or
    (getMetadata metadata (metadataKey route.controller) classes)

def getDefaultKey (request : GuardedRequest) : String :=
  "rate_limit:" ++ (if request.ip = "" then "unknown" else request.ip)

/-- Members that are older than the window are removed, and the request is added. -/
def checkDistributedRateLimit (client : Option SortedSets) (now : Nat) (member key : String)
    (config : RateLimitConfig) : Except String RateLimitResult :=
  match client with
  | none => .error "Redis pipeline not available"
  | some sets =>
      let recent := ((sets.get? key).getD []).filter fun entry => now < entry.2 + config.window
      let counted := recent.filter (fun entry => entry.1 ≠ member) ++ [(member, now)]
      .ok ⟨counted.length ≤ config.limit, counted.length, now + config.window⟩

def checkInMemoryRateLimit (now : Nat) (config : RateLimitConfig) : RateLimitResult :=
  ⟨true, 0, now + config.window⟩

def checkRateLimit (backend : BackendKind) (now : Nat) (member key : String)
    (config : RateLimitConfig) : RateLimitResult :=
  match checkDistributedRateLimit backend.client now member key config with
  | .ok result => result
  | .error _ => checkInMemoryRateLimit now config

def ceilSeconds (milliseconds : Nat) : Nat := (milliseconds + 999) / 1000

def rateLimitHeaders (now : Nat) (result : RateLimitResult) (config : RateLimitConfig) :
    List (String × Nat) :=
  [("X-RateLimit-Limit", config.limit), ("X-RateLimit-Remaining", config.limit - result.count),
    ("X-RateLimit-Reset", ceilSeconds result.resetTime),
    ("X-RateLimit-Reset-In", ceilSeconds (result.resetTime - now)),
    ("X-RateLimit-Window-MS", config.windowMs), ("X-RateLimit-Count", result.count)]

def tooManyRequests (result : RateLimitResult) (config : RateLimitConfig) : Exn :=
  .http 429 (.obj [("statusCode", .num 429), ("message", .str config.message),
    ("retryAfter", .num (ceilSeconds result.resetTime))])

/-- The headers of a request that may go on.  `member` is what a sorted set would name it. -/
def canActivate (metadata : Metadata) (backend : BackendKind) (route : GuardedRoute)
    (member : String) (request : GuardedRequest) : Except Exn (List (String × Nat)) :=
  match getRateLimitConfig metadata route with
  | none => .ok []
  | some config =>
      let key :=
        match config.keyGenerator with
        | some generate => generate request
        | none => getDefaultKey request
      let result := checkRateLimit backend request.now member key config
      if result.allowed then .ok (rateLimitHeaders request.now result config)
      else .error (tooManyRequests result config)

/-! ### What is let through -/

/-- The requests of a run, each with its member, that the guard lets through. -/
def letThrough (metadata : Metadata) (backend : BackendKind) (route : GuardedRoute)
    (requests : List (String × GuardedRequest)) : List (String × GuardedRequest) :=
  requests.filter fun request =>
    (canActivate metadata backend route request.1 request.2).isOk

/-- In no interval of the length of the window there are more than `limit` requests. -/
def WithinLimit (config : RateLimitConfig) (requests : List (String × GuardedRequest)) : Prop :=
  ∀ start, (requests.filter fun request =>
    start ≤ request.2.now ∧ request.2.now < start + config.window).length ≤ config.limit

/-- No class but `Function` finds the configuration of its decorators. -/
theorem getRateLimitConfig_eq_none (decorations : List RateLimited) (route : GuardedRoute)
    (named : route.controller ≠ "Function") :
    getRateLimitConfig (defineMetadata decorations) route = none := by
  have unfiled (name : String) (other : name ≠ "Function") (classes : List String) :
      getMetadata (defineMetadata decorations) (metadataKey name) classes = none := by
    rw [getMetadata, List.findSome?_eq_none_iff]
    intro className _
    rw [List.lookup_eq_none_iff]
    intro entry member
    obtain ⟨decorated, -, rfl⟩ := List.mem_map.mp member
    rw [bne_iff_ne]
    intro same
    obtain ⟨onClass, sameKey⟩ := Prod.mk.inj same
    have keyed := (String.append_right_inj _).mp sameKey
    cases property : decorated.propertyKey with
    | none =>
        apply other
        simpa [RateLimited.key, RateLimited.target, property,
          DecoratorTarget.constructorName] using keyed
    | some propertyKey =>
        simp [RateLimited.target, property] at onClass
  have dotted : route.controller ++ "." ++ route.handler ≠ "Function" := by
    intro same
    have dot : '.' ∈ (route.controller ++ "." ++ route.handler).toList := by simp
    rw [same] at dot
    revert dot
    decide
  rw [getRateLimitConfig, unfiled _ dotted, unfiled _ named]
  rfl

/-- The guard lets every request through. -/
theorem isOk_canActivate (metadata : Metadata) (backend : BackendKind) (route : GuardedRoute)
    (member : String) (request : GuardedRequest) :
    (canActivate metadata backend route member request).isOk = true := by
  unfold canActivate
  cases getRateLimitConfig metadata route with
  | none => rfl
  | some config =>
      cases backend with
      | memory => rfl
      | redis => rfl

/-- The guard keeps a decorated route within its limit exactly if its callers do. -/
theorem rate_limited_iff (decorations : List RateLimited) (decorated : RateLimited)
    (backend : BackendKind) (route : GuardedRoute)
    (requests : List (String × GuardedRequest)) :
    WithinLimit decorated.config
        (letThrough (defineMetadata (decorated :: decorations)) backend route requests) ↔
      WithinLimit decorated.config requests := by
  have everything : letThrough (defineMetadata (decorated :: decorations)) backend route requests =
      requests :=
    List.filter_eq_self.mpr fun request _ => isOk_canActivate _ _ _ _ _
  rw [everything]

/-! ### A decorated route -/

def sensitiveConfig : RateLimitConfig where
  limit := 1
  windowMs := 60
  keyGenerator := none
  message := "Too many requests, please try again later"

def sensitiveRoute : GuardedRoute := ⟨"PaymentController", [], "createPayment"⟩

def decoratedRoute : RateLimited := ⟨"PaymentController", some "createPayment", sensitiveConfig⟩

def twoRequests : List (String × GuardedRequest) :=
  [("0-0.1", ⟨0, "10.0.0.1", none, none⟩), ("0-0.2", ⟨0, "10.0.0.1", none, none⟩)]

/-- One request a minute is allowed, and two come through at once. -/
theorem two_at_once :
    ¬ WithinLimit sensitiveConfig
      (letThrough (defineMetadata [decoratedRoute]) .memory sensitiveRoute twoRequests) ∧
    ¬ WithinLimit sensitiveConfig
      (letThrough (defineMetadata [decoratedRoute]) .redis sensitiveRoute twoRequests) := by
  constructor
  · intro within
    exact absurd (within 0) (by decide +kernel)
  · intro within
    exact absurd (within 0) (by decide +kernel)

end RateLimitGuard

end SelfService
