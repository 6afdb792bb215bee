/-
Reloading the endpoint configuration.

A port keeps the configuration it was registered with, and its breaker the
options it was created with.  Only the adapter is chosen anew on each call.
-/

import SelfService.EventLoop.Lockstep
import SelfService.Port.FailureClasses
import SelfService.Port.PortUpdates

namespace SelfService

open Data EventLoop PortRegistry

/-! ### Settings -/

/-- How long results are cached, where they are. -/
def PortConfig.cachedFor (config : PortConfig) : Option Nat :=
  if config.cacheTier ≠ .transaction ∧ 0 < config.cacheTtl then some config.cacheTtl else none

/-- What the options come to: error threshold, minimum, time to reset and window. -/
def CircuitBreakerOptions.thresholds (options : CircuitBreakerOptions) : Nat × Nat × Nat × Nat :=
  (orDefault options.errorThreshold 50, orDefault options.minRequests 10,
    orDefault options.resetTimeout 30000, orDefault options.timeout 60000)

/-- What an `execute` on a port goes by. -/
structure Decisions where
  adapter : AdapterKind
  caching : String → Option Nat
  queuePolicy : QueuePolicy
  thresholds : Nat × Nat × Nat × Nat

def decisions (world : World registryOnly) (name : String) : Option Decisions := do
  let entry ← world.ports.get? name
  let breaker ← world.circuitBreakers.get? name
  return {
    adapter := adapterUsed world name
    caching := fun method =>
      if shouldCache entry method then some entry.config.cacheTtl else none
    queuePolicy := entry.config.queuePolicy
    thresholds := breaker.options.thresholds }

/-- The port as it would be registered now, with the breaker's counters carried over. -/
def restarted (name : String) (world : World registryOnly) : World registryOnly :=
  let config := resolveConfig name (world.endpointConfig.get? name)
  { world with
    ports := world.ports.set name ⟨name, config⟩
    circuitBreakers :=
      match world.circuitBreakers.get? name with
      | some breaker =>
          world.circuitBreakers.set name { breaker with options := config.circuitBreaker }
      | none => world.circuitBreakers }

/-- Two entries of the YAML file make the same port, but for its adapter. -/
def SameSettings (name : String) (old new : Option PortEndpointConfig) : Prop :=
  (resolveConfig name old).cachedFor = (resolveConfig name new).cachedFor ∧
    (resolveConfig name old).queuePolicy = (resolveConfig name new).queuePolicy ∧
    (resolveConfig name old).circuitBreaker.thresholds =
      (resolveConfig name new).circuitBreaker.thresholds

theorem shouldCache_iff (entry : PortEntry) (method : String) :
    (if shouldCache entry method then some entry.config.cacheTtl else none) =
      if isMutationMethod method then none else entry.config.cachedFor := by
  unfold shouldCache PortConfig.cachedFor
  cases isMutationMethod method with
  | true => rfl
  | false =>
      by_cases cached : entry.config.cacheTier ≠ .transaction ∧ 0 < entry.config.cacheTtl
      · simp [cached]
      · rw [if_neg cached, if_neg, if_neg Bool.false_ne_true]
        simpa using cached

/-- The settings show in how reads are cached. -/
theorem caching_iff (entry other : PortEntry) :
    ((fun method => if shouldCache entry method then some entry.config.cacheTtl else none) =
        fun method => if shouldCache other method then some other.config.cacheTtl else none) ↔
      entry.config.cachedFor = other.config.cachedFor := by
  constructor
  · intro same
    have read := congrFun same "get"
    rw [shouldCache_iff, shouldCache_iff] at read
    have reads : isMutationMethod "get" = false := by decide +kernel
    rw [reads] at read
    exact read
  · intro same
    funext method
    rw [shouldCache_iff, shouldCache_iff, same]

/-! ### What a registration leaves -/

section Registered

variable {wiring : Wiring}

/-- The breaker of the port has these options. -/
def HasOptions (name : String) (options : CircuitBreakerOptions) (world : World registryOnly) :
    Prop :=
  (world.circuitBreakers.get? name).map CircuitBreakerState.options = some options

theorem recordSuccess_options (now : Nat) (breaker : CircuitBreakerState) :
    (breaker.recordSuccess now).options = breaker.options := by
  simp only [CircuitBreakerState.recordSuccess, CircuitBreakerState.cleanupOldRequests]
  split <;> split <;> rfl

theorem recordFailure_options (now : Nat) (error : Exn) (breaker : CircuitBreakerState) :
    (breaker.recordFailure now error).options = breaker.options := by
  simp only [CircuitBreakerState.recordFailure, CircuitBreakerState.cleanupOldRequests]
  split
  · split <;> split <;> rfl
  · rfl

theorem hasOptions_setBreaker {name portName : String} {options : CircuitBreakerOptions}
    {change : CircuitBreakerState → CircuitBreakerState} {world : World registryOnly}
    (keeps : ∀ breaker, (change breaker).options = breaker.options)
    (has : HasOptions name options world) :
    HasOptions name options (setBreaker portName change world) := by
  unfold HasOptions setBreaker at *
  split
  · rename_i breaker there
    dsimp only
    by_cases same : portName = name
    · subst same
      rw [there] at has
      rw [OrderedMap.get?_set_self, Option.map_some, keeps]
      exact has
    · rw [OrderedMap.get?_set_of_ne _ _ same]
      exact has
  · exact has

/-- The options of a breaker stay as they are. -/
theorem kept_options (name : String) (options : CircuitBreakerOptions) :
    EventLoop.Kept wiring.registry (HasOptions name options) := by
  constructor
  · rintro (call | call)
    · apply (portBody_updates wiring call).mono
      intro update updates world has
      cases updates with
      | read | slot | invalidate => exact has
      | probe =>
          apply hasOptions_setBreaker _ has
          intro breaker
          split <;> rfl
      | success => exact hasOptions_setBreaker (recordSuccess_options _) has
      | failure error =>
          apply hasOptions_setBreaker _ has
          intro breaker
          dsimp only
          split <;> exact recordFailure_options _ _ _
    · exact call.elim
  · intro world request answer after has performed
    obtain ⟨cache, jobs, rfl⟩ := answer_leaves performed
    exact has
  · intro world event after has moved
    have moved : World.external wiring.remote world event = some after := moved
    rcases external_cases moved with ⟨millis, rfl⟩ | ⟨fullKey, -, rfl⟩ | ⟨mock, endpoints, rfl⟩ <;>
      exact has

/-- The port is registered with the configuration of this YAML entry. -/
structure RegisteredAs (name : String) (endpoint : Option PortEndpointConfig)
    (world : World registryOnly) : Prop where
  entry : world.ports.get? name = some ⟨name, resolveConfig name endpoint⟩
  options : HasOptions name (resolveConfig name endpoint).circuitBreaker world

theorem registeredAs_registerAll (names : List String) {name : String} :
    ∀ world : World registryOnly,
      (name ∈ names ∨ RegisteredAs name (world.endpointConfig.get? name) world) →
        RegisteredAs name (world.endpointConfig.get? name) (registerAll names world) := by
  induction names with
  | nil => exact fun world known => known.resolve_left (List.not_mem_nil)
  | cons first rest ih =>
      intro world known
      change RegisteredAs name ((register first world).endpointConfig.get? name)
        (registerAll rest (register first world))
      apply ih
      by_cases same : first = name
      · subst same
        right
        constructor
        · exact OrderedMap.get?_set_self _ _ _
        · exact congrArg (Option.map CircuitBreakerState.options) (OrderedMap.get?_set_self _ _ _)
      · rcases known with member | registered
        · left
          exact (List.mem_cons.mp member).resolve_left fun equal => same equal.symm
        · right
          constructor
          · exact (OrderedMap.get?_set_of_ne _ _ same).trans registered.entry
          · exact (congrArg (Option.map CircuitBreakerState.options)
              (OrderedMap.get?_set_of_ne _ _ same)).trans registered.options

/-- Along every run a port stays as it was registered. -/
theorem registeredAs_reachable {names : List String} {name : String} (member : name ∈ names)
    {now : Nat} {cache : Store} {old : OrderedMap String PortEndpointConfig}
    {p : Pool (portSignature registryOnly) Resolution}
    (reached : Reachable wiring.registry (registerAll names (bareWorld now cache old ())) p) :
    RegisteredAs name (old.get? name) p.snapshot.state := by
  have registered : RegisteredAs name (old.get? name)
      (registerAll names (bareWorld now cache old () : World registryOnly)) :=
    registeredAs_registerAll names (bareWorld now cache old ()) (Or.inl member)
  constructor
  · rw [(kept_ports _).reachable rfl reached]
    exact registered.entry
  · exact (kept_options _ _).reachable registered.options reached

/-- A registered port decides as a restarted one exactly if the settings are the same. -/
theorem decisions_restarted_iff {name : String} {old : Option PortEndpointConfig}
    {world : World registryOnly} (registered : RegisteredAs name old world) :
    decisions world name = decisions (restarted name world) name ↔
      SameSettings name old (world.endpointConfig.get? name) := by
  obtain ⟨breaker, there, options⟩ := Option.map_eq_some_iff.mp registered.options
  have decides : decisions world name = some
      { adapter := adapterUsed world name
        caching := fun method => if shouldCache ⟨name, resolveConfig name old⟩ method then
          some (resolveConfig name old).cacheTtl else none
        queuePolicy := (resolveConfig name old).queuePolicy
        thresholds := (resolveConfig name old).circuitBreaker.thresholds } := by
    unfold decisions
    rw [registered.entry, there, ← options]
    rfl
  have restarts : decisions (restarted name world) name = some
      { adapter := adapterUsed world name
        caching := fun method =>
          if shouldCache ⟨name, resolveConfig name (world.endpointConfig.get? name)⟩ method then
            some (resolveConfig name (world.endpointConfig.get? name)).cacheTtl else none
        queuePolicy := (resolveConfig name (world.endpointConfig.get? name)).queuePolicy
        thresholds :=
          (resolveConfig name (world.endpointConfig.get? name)).circuitBreaker.thresholds } := by
    unfold decisions restarted
    rw [there]
    simp only [OrderedMap.get?_set_self]
    rfl
  rw [decides, restarts, Option.some.injEq, Decisions.mk.injEq]
  have caching := caching_iff ⟨name, resolveConfig name old⟩
    ⟨name, resolveConfig name (world.endpointConfig.get? name)⟩
  constructor
  · rintro ⟨-, cached, policy, thresholds⟩
    exact ⟨caching.mp cached, policy, thresholds⟩
  · rintro ⟨cached, policy, thresholds⟩
    exact ⟨rfl, caching.mpr cached, policy, thresholds⟩

end Registered

/-! ### Worlds with the same settings -/

def SameCaching (entry other : PortEntry) : Prop :=
  entry.config.cachedFor = other.config.cachedFor ∧
    entry.config.queuePolicy = other.config.queuePolicy

/-- The breakers differ in options that come to the same. -/
def SameBreaker (breaker other : CircuitBreakerState) : Prop :=
  ∃ options, options.thresholds = breaker.options.thresholds ∧
    other = { breaker with options := options }

/-- The worlds differ in settings that come to the same. -/
def Alike (world other : World registryOnly) : Prop :=
  ∃ ports breakers, other = { world with ports := ports, circuitBreakers := breakers } ∧
    (∀ name, Option.Rel SameCaching (world.ports.get? name) (ports.get? name)) ∧
    ∀ name, Option.Rel SameBreaker (world.circuitBreakers.get? name) (breakers.get? name)

section Alike

variable {wiring : Wiring} {i : Invocation}

theorem SameBreaker.recordSuccess {breaker other : CircuitBreakerState} (now : Nat)
    (same : SameBreaker breaker other) :
    SameBreaker (breaker.recordSuccess now) (other.recordSuccess now) := by
  obtain ⟨options, thresholds, rfl⟩ := same
  refine ⟨options, ?_, ?_⟩
  · rw [recordSuccess_options]
    exact thresholds
  · have window : orDefault options.timeout 60000 = orDefault breaker.options.timeout 60000 :=
      congrArg (fun all => all.2.2.2) thresholds
    simp only [CircuitBreakerState.recordSuccess, CircuitBreakerState.cleanupOldRequests,
      CircuitBreakerState.close, CircuitBreakerState.resetMetrics]
    by_cases trial : breaker.state = .halfOpen
    · simp only [trial, if_true, window]
      split <;> rfl
    · simp only [trial, if_false, window]
      split <;> rfl

theorem SameBreaker.recordFailure {breaker other : CircuitBreakerState} (now : Nat) (error : Exn)
    (same : SameBreaker breaker other) :
    SameBreaker (breaker.recordFailure now error) (other.recordFailure now error) := by
  obtain ⟨options, thresholds, rfl⟩ := same
  refine ⟨options, ?_, ?_⟩
  · rw [recordFailure_options]
    exact thresholds
  · have window : orDefault options.timeout 60000 = orDefault breaker.options.timeout 60000 :=
      congrArg (fun all => all.2.2.2) thresholds
    simp only [CircuitBreakerState.recordFailure, CircuitBreakerState.cleanupOldRequests,
      CircuitBreakerState.open]
    split
    · by_cases trial : breaker.state = .halfOpen
      · simp only [trial, if_true, window]
        split <;> rfl
      · simp only [trial, if_false, window]
        split <;> rfl
    · rfl

theorem SameBreaker.shouldOpen {breaker other : CircuitBreakerState}
    (same : SameBreaker breaker other) : breaker.shouldOpen = other.shouldOpen := by
  obtain ⟨options, thresholds, rfl⟩ := same
  have threshold : orDefault options.errorThreshold 50 =
      orDefault breaker.options.errorThreshold 50 := congrArg Prod.fst thresholds
  have minimum : orDefault options.minRequests 10 = orDefault breaker.options.minRequests 10 :=
    congrArg (fun all => all.2.1) thresholds
  simp only [CircuitBreakerState.shouldOpen, threshold, minimum]
  rfl

theorem SameBreaker.shouldAttemptReset {breaker other : CircuitBreakerState} (now : Nat)
    (same : SameBreaker breaker other) :
    breaker.shouldAttemptReset now = other.shouldAttemptReset now := by
  obtain ⟨options, thresholds, rfl⟩ := same
  have reset : orDefault options.resetTimeout 30000 = orDefault breaker.options.resetTimeout 30000 :=
    congrArg (fun all => all.2.2.1) thresholds
  simp only [CircuitBreakerState.shouldAttemptReset, reset]

theorem SameBreaker.state {breaker other : CircuitBreakerState}
    (same : SameBreaker breaker other) : other.state = breaker.state := by
  obtain ⟨options, -, rfl⟩ := same
  rfl

theorem Alike.setBreaker {world other : World registryOnly} (alike : Alike world other)
    (portName : String) {change : Nat → CircuitBreakerState → CircuitBreakerState}
    (respects : ∀ now breaker other, SameBreaker breaker other →
      SameBreaker (change now breaker) (change now other)) :
    Alike (PortRegistry.setBreaker portName (change world.now) world)
      (PortRegistry.setBreaker portName (change other.now) other) := by
  obtain ⟨ports, breakers, rfl, entries, same⟩ := alike
  unfold PortRegistry.setBreaker
  dsimp only
  have own := same portName
  revert own
  cases there : world.circuitBreakers.get? portName with
  | none =>
      cases here : breakers.get? portName with
      | none => exact fun _ => ⟨ports, breakers, rfl, entries, same⟩
      | some breaker => exact nofun
  | some breaker =>
      cases here : breakers.get? portName with
      | none => exact nofun
      | some twin =>
          rintro ⟨related⟩
          refine ⟨ports, breakers.set portName (change world.now twin), rfl, entries, ?_⟩
          intro name
          dsimp only
          by_cases equal : portName = name
          · subst equal
            rw [OrderedMap.get?_set_self, OrderedMap.get?_set_self]
            exact .some (respects _ _ _ related)
          · rw [OrderedMap.get?_set_of_ne _ _ equal, OrderedMap.get?_set_of_ne _ _ equal]
            exact same name

theorem Alike.rejectsNow {world other : World registryOnly} (alike : Alike world other)
    (portName : String) :
    PortRegistry.rejectsNow world portName = PortRegistry.rejectsNow other portName := by
  obtain ⟨ports, breakers, rfl, entries, same⟩ := alike
  unfold PortRegistry.rejectsNow
  dsimp only
  have own := same portName
  revert own
  generalize world.circuitBreakers.get? portName = first
  generalize breakers.get? portName = second
  intro own
  cases own with
  | none => rfl
  | some related =>
      rw [Option.any_some, Option.any_some, related.state, related.shouldAttemptReset]

theorem Alike.admitProbe {world other : World registryOnly} (alike : Alike world other)
    (portName : String) :
    Alike (PortRegistry.admitProbe portName world) (PortRegistry.admitProbe portName other) := by
  let change (now : Nat) (breaker : CircuitBreakerState) : CircuitBreakerState :=
    if breaker.state = .open then breaker.halfOpen now else breaker
  suffices respects : ∀ now breaker twin, SameBreaker breaker twin →
      SameBreaker (change now breaker) (change now twin) from alike.setBreaker portName respects
  intro now breaker twin related
  simp only [change]
  rw [related.state]
  split
  · obtain ⟨options, thresholds, rfl⟩ := related
    exact ⟨options, thresholds, rfl⟩
  · exact related

theorem Alike.noteSuccess {world other : World registryOnly} (alike : Alike world other)
    (portName : String) :
    Alike (PortRegistry.noteSuccess portName world) (PortRegistry.noteSuccess portName other) :=
  alike.setBreaker portName fun now _ _ related => related.recordSuccess now

theorem Alike.noteFailure {world other : World registryOnly} (alike : Alike world other)
    (portName : String) (error : Exn) :
    Alike (PortRegistry.noteFailure portName error world)
      (PortRegistry.noteFailure portName error other) := by
  let change (now : Nat) (breaker : CircuitBreakerState) : CircuitBreakerState :=
    if (breaker.recordFailure now error).shouldOpen then
      (breaker.recordFailure now error).open now else breaker.recordFailure now error
  suffices respects : ∀ now breaker twin, SameBreaker breaker twin →
      SameBreaker (change now breaker) (change now twin) from alike.setBreaker portName respects
  intro now breaker twin related
  simp only [change]
  have recorded := related.recordFailure now error
  rw [← recorded.shouldOpen]
  split
  · obtain ⟨options, thresholds, same⟩ := recorded
    exact ⟨options, thresholds, by rw [same]; rfl⟩
  · exact recorded

end Alike

/-! ### The code in such worlds -/

section Code

variable {wiring : Wiring} {i : Invocation} {entry other : PortEntry}

theorem SameCaching.shouldCache (same : SameCaching entry other) (method : String) :
    PortRegistry.shouldCache entry method = PortRegistry.shouldCache other method ∧
      (PortRegistry.shouldCache entry method = true →
        entry.config.cacheTtl = other.config.cacheTtl) := by
  have cached := shouldCache_iff entry method
  rw [same.1, ← shouldCache_iff other method] at cached
  cases first : PortRegistry.shouldCache entry method <;>
    cases second : PortRegistry.shouldCache other method <;>
    simp_all

theorem SameCaching.executeWithQueue (same : SameCaching entry other) (adapter : AdapterKind)
    (startTime : Nat) (cause : Option Exn) :
    PortRegistry.executeWithQueue wiring.remote i entry adapter startTime cause =
      PortRegistry.executeWithQueue wiring.remote i other adapter startTime cause := by
  unfold PortRegistry.executeWithQueue
  rw [same.2]

theorem SameCaching.postProcess (same : SameCaching entry other) (data : JsValue) :
    PortRegistry.postProcess wiring.remote i entry data =
      PortRegistry.postProcess wiring.remote i other data := by
  have written : writeCache wiring.remote i entry data = writeCache wiring.remote i other data := by
    obtain ⟨cached, ttl⟩ := same.shouldCache i.method
    unfold writeCache
    rw [cached] at ttl ⊢
    split
    · rename_i yes
      rw [ttl yes]
    · rfl
  unfold PortRegistry.postProcess
  rw [written]

theorem SameCaching.executeThroughBreaker (same : SameCaching entry other) (adapter : AdapterKind)
    (startTime : Nat) :
    PortRegistry.executeThroughBreaker wiring.remote i entry adapter startTime =
      PortRegistry.executeThroughBreaker wiring.remote i other adapter startTime := by
  unfold PortRegistry.executeThroughBreaker
  simp only [same.executeWithQueue, same.postProcess]

theorem SameCaching.executeRegistered (same : SameCaching entry other) (adapter : AdapterKind)
    (startTime : Nat) :
    PortRegistry.executeRegistered wiring.remote i entry adapter startTime =
      PortRegistry.executeRegistered wiring.remote i other adapter startTime := by
  have through : executeThroughCache wiring.remote i entry adapter startTime =
      executeThroughCache wiring.remote i other adapter startTime := by
    unfold executeThroughCache
    rw [(same.shouldCache i.method).1]
    simp only [same.executeThroughBreaker]
  unfold PortRegistry.executeRegistered
  simp only [through]

/-- Tasks that read no setting. -/
theorem blind_of_fields {α : Type} {update : World registryOnly → World registryOnly}
    {next : World registryOnly → PortTask registryOnly α}
    (kept : ∀ world ports breakers,
      update { world with ports := ports, circuitBreakers := breakers } =
        { update world with ports := ports, circuitBreakers := breakers })
    (leaves : ∀ world, (update world).ports = world.ports ∧
      (update world).circuitBreakers = world.circuitBreakers)
    (same : ∀ world ports breakers,
      next { world with ports := ports, circuitBreakers := breakers } = next world)
    (blind : ∀ world, (next world).Blind Alike) :
    (EventLoop.Task.sync (S := portSignature registryOnly) update next).Blind Alike := by
  rintro world _ ⟨ports, breakers, rfl, entries, twins⟩
  refine ⟨⟨ports, breakers, kept _ _ _, ?_, ?_⟩, (same _ _ _).symm, blind world⟩
  · rw [(leaves world).1]
    exact entries
  · rw [(leaves world).2]
    exact twins

theorem blind_read {α : Type} {next : World registryOnly → PortTask registryOnly α}
    (same : ∀ world ports breakers,
      next { world with ports := ports, circuitBreakers := breakers } = next world)
    (blind : ∀ world, (next world).Blind Alike) :
    (EventLoop.Task.sync (S := portSignature registryOnly) id next).Blind Alike :=
  blind_of_fields (fun _ _ _ => rfl) (fun _ => ⟨rfl, rfl⟩) same blind

/-- A task that touches no memory. -/
theorem blind_of_untouched {α : Type} {task : PortTask registryOnly α}
    (untouched : task.Updates fun _ => False) : task.Blind Alike := by
  induction task with
  | done value => exact trivial
  | fail error => exact trivial
  | sync update next ih => exact untouched.1.elim
  | mark label next ih => exact ih untouched
  | fork call next ih => exact ih untouched
  | await request next ih => exact fun answer => ih answer (untouched answer)

theorem blind_executeWithQueue (adapter : AdapterKind) (startTime : Nat) (cause : Option Exn) :
    (PortRegistry.executeWithQueue wiring.remote i entry adapter startTime cause).Blind Alike := by
  have rejects : (enqueueAndReject wiring.remote i).Blind Alike :=
    (blind_of_untouched (updates_enqueue wiring _)).bind fun _ => trivial
  unfold PortRegistry.executeWithQueue executeFallback
  split
  · apply blind_read fun _ _ _ => rfl
    intro world
    dsimp only
    split <;> exact trivial
  · split
    · apply blind_read fun _ _ _ => rfl
      intro world
      dsimp only
      split
      · exact rejects
      · exact trivial
    · exact rejects

theorem blind_fillSlot (data : JsValue) : (fillSlot i data).Blind Alike :=
  blind_of_fields (fun _ _ _ => rfl) (fun _ => ⟨rfl, rfl⟩) (fun _ _ _ => rfl) fun _ => trivial

theorem blind_postProcess (data : JsValue) :
    (PortRegistry.postProcess wiring.remote i entry data).Blind Alike := by
  have invalidated : (invalidatePort wiring.remote i).Blind Alike := by
    unfold invalidatePort
    split
    · exact blind_of_fields (fun _ _ _ => rfl) (fun _ => ⟨rfl, rfl⟩) (fun _ _ _ => rfl)
        fun _ => trivial
    · exact trivial
  have written : (writeCache wiring.remote i entry data).Blind Alike := by
    unfold writeCache
    split
    · exact blind_read (fun _ _ _ => rfl) fun _ => blind_of_untouched (updates_store _ _ _)
    · exact trivial
  have recorded : (recordResult wiring.remote i data).Blind Alike := by
    unfold recordResult
    split
    · split
      · exact blind_of_untouched (updates_store _ _ _)
      · exact trivial
    · exact trivial
  have stored : (do
      writeCache wiring.remote i entry data
      fillSlot i data
      recordResult wiring.remote i data).Blind Alike :=
    written.bind fun _ => (blind_fillSlot data).bind fun _ => recorded
  unfold PortRegistry.postProcess
  split
  · exact invalidated.bind fun _ => stored
  · exact stored

theorem blind_executeThroughBreaker (adapter : AdapterKind) (startTime : Nat) :
    (PortRegistry.executeThroughBreaker wiring.remote i entry adapter startTime).Blind Alike := by
  intro world twin alike
  refine ⟨alike, ?_, ?_⟩
  · simp only [Task.done_bind, alike.rejectsNow]
  · change EventLoop.Task.Blind Alike ((if rejectsNow world i.portName = true then _ else _ :
      PortTask registryOnly PortResult))
    split
    · exact blind_executeWithQueue adapter startTime none
    · intro before after alike
      refine ⟨alike.admitProbe i.portName, rfl, ?_⟩
      apply (blind_of_untouched (updates_callAdapter wiring adapter i)).bind
      intro outcome
      cases outcome with
      | ok data =>
          apply blind_read
          · intro world ports breakers
            rfl
          · intro world before after alike
            refine ⟨alike.noteSuccess i.portName, rfl, ?_⟩
            exact (blind_postProcess data).bind fun _ => trivial
      | error error =>
          intro before after alike
          exact ⟨alike.noteFailure i.portName error, rfl,
            blind_executeWithQueue adapter startTime (some error)⟩

theorem blind_executeThroughCache (adapter : AdapterKind) (startTime : Nat) :
    (executeThroughCache wiring.remote i entry adapter startTime).Blind Alike := by
  unfold executeThroughCache
  split
  · intro (reply : Reply JsValue)
    apply blind_read fun _ _ _ => rfl
    intro world
    change EventLoop.Task.Blind Alike ((if (reply.getD .null).isNullish = true then _ else _ :
      PortTask registryOnly PortResult))
    split
    · exact blind_executeThroughBreaker adapter startTime
    · exact trivial
  · exact blind_executeThroughBreaker adapter startTime

theorem blind_executeRegistered (adapter : AdapterKind) (startTime : Nat) :
    (PortRegistry.executeRegistered wiring.remote i entry adapter startTime).Blind Alike := by
  unfold PortRegistry.executeRegistered
  split
  · split
    · intro (reply : Reply JsValue)
      apply blind_read fun _ _ _ => rfl
      intro world
      change EventLoop.Task.Blind Alike ((if (reply.getD .null).isNullish = true then _ else _ :
        PortTask registryOnly PortResult))
      split
      · exact blind_executeThroughCache adapter startTime
      · exact trivial
    · exact blind_executeThroughCache adapter startTime
  · exact blind_executeThroughCache adapter startTime

theorem blind_execute : (execute wiring.remote i).Blind Alike := by
  intro world twin alike
  refine ⟨alike, ?_, ?_⟩
  · obtain ⟨ports, breakers, rfl, entries, -⟩ := alike
    have own := entries i.portName
    simp only [Task.done_bind]
    revert own
    generalize world.ports.get? i.portName = first
    generalize ports.get? i.portName = second
    intro own
    cases own with
    | none => rfl
    | some related => exact related.executeRegistered _ _
  · simp only [Task.done_bind]
    split
    · exact trivial
    · exact blind_executeRegistered _ _

theorem blind_executeReplay (payload : ReplayJobPayload) :
    (executeReplay wiring.remote payload).Blind Alike := by
  intro world twin alike
  refine ⟨alike, ?_, ?_⟩
  · obtain ⟨ports, breakers, rfl, entries, -⟩ := alike
    have own := entries payload.portName
    simp only [Task.done_bind]
    revert own
    generalize world.ports.get? payload.portName = first
    generalize ports.get? payload.portName = second
    intro own
    cases own with
    | none => rfl
    | some related => rfl
  · simp only [Task.done_bind]
    split
    · exact trivial
    · apply (blind_of_untouched (updates_callAdapter wiring .live payload.invocation)).bind
      intro outcome
      cases outcome with
      | ok data => exact (blind_fillSlot data).bind fun _ => trivial
      | error error => exact trivial

end Code

/-! ### Runs after a reload -/

section Runs

variable {wiring : Wiring}

theorem sameCaching_refl (entry : PortEntry) : SameCaching entry entry := ⟨rfl, rfl⟩

theorem sameBreaker_refl (breaker : CircuitBreakerState) : SameBreaker breaker breaker :=
  ⟨breaker.options, rfl, rfl⟩

theorem rel_refl {α : Type} {R : α → α → Prop} (reflexive : ∀ value, R value value)
    (option : Option α) : Option.Rel R option option := by
  cases option with
  | none => exact .none
  | some value => exact .some (reflexive value)

theorem alike_refl (world : World registryOnly) : Alike world world :=
  ⟨world.ports, world.circuitBreakers, rfl, fun _ => rel_refl sameCaching_refl _,
    fun _ => rel_refl sameBreaker_refl _⟩

theorem alike_of_frame {world : World registryOnly} {ports : OrderedMap String PortEntry}
    {breakers : OrderedMap String CircuitBreakerState} {first second : Option (World registryOnly)}
    (same : second = first.map fun after =>
      { after with ports := ports, circuitBreakers := breakers })
    (leaves : ∀ after, first = some after →
      after.ports = world.ports ∧ after.circuitBreakers = world.circuitBreakers)
    (entries : ∀ name, Option.Rel SameCaching (world.ports.get? name) (ports.get? name))
    (twins : ∀ name, Option.Rel SameBreaker (world.circuitBreakers.get? name)
      (breakers.get? name)) : Option.Rel Alike first second := by
  subst same
  cases first with
  | none => exact .none
  | some after =>
      obtain ⟨samePorts, sameBreakers⟩ := leaves after rfl
      refine .some ⟨ports, breakers, rfl, ?_, ?_⟩
      · rw [samePorts]
        exact entries
      · rw [sameBreakers]
        exact twins

theorem blind_portBody (call : PortCall) : (portBody wiring.remote call).Blind Alike := by
  cases call with
  | execute i => exact blind_execute.bind fun _ => trivial
  | replay payload =>
      apply blind_read fun _ _ _ => rfl
      intro world
      change EventLoop.Task.Blind Alike
        ((if payload ∈ world.jobs then _ else _ : PortTask registryOnly Resolution))
      split
      · exact (blind_executeReplay payload).bind fun _ => trivial
      · exact trivial
  | invalidate cause =>
      exact (blind_of_untouched (updates_deleteByPattern _ _)).attempt.bind fun _ => trivial
  | refresh cause =>
      exact (blind_of_untouched (updates_enqueue wiring _)).attempt.bind fun _ => trivial

/-- No call tells worlds apart that differ in settings that come to the same. -/
theorem indistinct_alike : Indistinct wiring.registry Alike := by
  constructor
  · rintro (call | call)
    · exact blind_portBody call
    · exact call.elim
  · rintro world _ request answer ⟨ports, breakers, rfl, entries, twins⟩
    apply alike_of_frame _ _ entries twins
    · rcases request with (command | ref | payload) | request
      · change performPort wiring.remote _ (.cache command) answer =
          (performPort wiring.remote world (.cache command) answer).map _
        unfold performPort
        dsimp only
        split
        · simp only [Option.map_map]
          rfl
        · rfl
      · rfl
      · cases (answer : Reply (Option String)) with
        | ok jobId => rfl
        | failed applied reason => cases applied <;> rfl
      · exact request.elim
    · intro after performed
      obtain ⟨cache, jobs, rfl⟩ := answer_leaves performed
      exact ⟨rfl, rfl⟩
  · rintro world _ event ⟨ports, breakers, rfl, entries, twins⟩
    apply alike_of_frame _ _ entries twins
    · cases event with
      | tick millis => rfl
      | evict fullKey =>
          change World.external wiring.remote _ (.evict fullKey) =
            (World.external wiring.remote world (.evict fullKey)).map _
          unfold World.external
          dsimp only
          split <;> rfl
      | reload mock endpoints => rfl
    · intro after moved
      have moved : World.external wiring.remote world event = some after := moved
      rcases external_cases moved with ⟨millis, rfl⟩ | ⟨fullKey, -, rfl⟩ | ⟨mock, endpoints, rfl⟩ <;>
        exact ⟨rfl, rfl⟩
  · rintro world _ ⟨ports, breakers, rfl, -⟩
    rfl

/-- With the same settings a restart changes nothing that a call can see. -/
theorem alike_restarted {name : String} {old : Option PortEndpointConfig}
    {world : World registryOnly} (registered : RegisteredAs name old world)
    (same : SameSettings name old (world.endpointConfig.get? name)) :
    Alike world (restarted name world) := by
  obtain ⟨cached, policy, thresholds⟩ := same
  refine ⟨_, _, rfl, ?_, ?_⟩
  · intro other
    by_cases equal : name = other
    · subst equal
      rw [registered.entry, OrderedMap.get?_set_self]
      exact .some ⟨cached, policy⟩
    · rw [OrderedMap.get?_set_of_ne _ _ equal]
      exact rel_refl sameCaching_refl _
  · intro other
    obtain ⟨breaker, there, options⟩ := Option.map_eq_some_iff.mp registered.options
    rw [there]
    dsimp only
    by_cases equal : name = other
    · subst equal
      rw [there, OrderedMap.get?_set_self]
      refine .some ⟨_, ?_, rfl⟩
      rw [options]
      exact thresholds.symm
    · rw [OrderedMap.get?_set_of_ne _ _ equal]
      exact rel_refl sameBreaker_refl _

def RestartedPool (name : String) (p : Pool (portSignature registryOnly) Resolution) :
    Pool (portSignature registryOnly) Resolution :=
  { p with snapshot := ⟨restarted name p.snapshot.state, p.snapshot.trace⟩ }

/-- In every run a registered port decides as if it were restarted under the configuration that is
loaded, exactly if its settings are still the same; and then no run tells the two apart. -/
theorem reload_as_restart_iff {names : List String} {name : String} (member : name ∈ names)
    {now : Nat} {cache : Store} {old : OrderedMap String PortEndpointConfig}
    {p : Pool (portSignature registryOnly) Resolution}
    (reached : Reachable wiring.registry (registerAll names (bareWorld now cache old ())) p) :
    (decisions p.snapshot.state name = decisions (restarted name p.snapshot.state) name ↔
        SameSettings name (old.get? name) (p.snapshot.state.endpointConfig.get? name)) ∧
      (SameSettings name (old.get? name) (p.snapshot.state.endpointConfig.get? name) →
        ∀ schedule, (p.run wiring.registry schedule).map (fun last => last.snapshot.trace) =
          ((RestartedPool name p).run wiring.registry schedule).map
            fun last => last.snapshot.trace) := by
  have registered := registeredAs_reachable member reached
  refine ⟨decisions_restarted_iff registered, ?_⟩
  intro same schedule
  have twin := indistinct_alike.reachable alike_refl reached
  have restartedTwin : p.Twin Alike (RestartedPool name p) :=
    ⟨⟨alike_restarted registered same, rfl⟩, rfl, twin.blind⟩
  exact restartedTwin.traces indistinct_alike schedule

end Runs

/-! ### The port of payments -/

/-- The entry of payments goes live. -/
def liveEndpoints : OrderedMap String PortEndpointConfig :=
  apiEndpoints.set "payment" { transactionEndpoint 5000 (some .always) with adapter := .live }

/-- The entry of payments tolerates more errors. -/
def tolerantEndpoints : OrderedMap String PortEndpointConfig :=
  apiEndpoints.set "payment"
    { transactionEndpoint 5000 (some .always) with circuitBreaker := some ⟨60, 30000, 3⟩ }

def reloaded (endpoints : OrderedMap String PortEndpointConfig) :
    Pool (portSignature registryOnly) Resolution :=
  ⟨⟨{ payingWorld with endpointConfig := endpoints }, []⟩, []⟩

theorem reload_as_restart_iff_live :
    decisions (reloaded liveEndpoints).snapshot.state "payment" =
      decisions (restarted "payment" (reloaded liveEndpoints).snapshot.state) "payment" := by
  have reached : Reachable gateWiring.registry
      (registerAll ["payment"] (bareWorld 1700000000000 .empty apiEndpoints ()))
      (reloaded liveEndpoints) := ⟨[.external (.reload false liveEndpoints)], rfl⟩
  exact (reload_as_restart_iff List.mem_cons_self reached).1.mpr
    ⟨by decide +kernel, by decide +kernel, by decide +kernel⟩

/-- A reloaded error threshold does not reach the breaker. -/
theorem reload_is_not_restart :
    ¬ ∀ p, Reachable gateWiring.registry payingWorld p →
      decisions p.snapshot.state "payment" =
        decisions (restarted "payment" p.snapshot.state) "payment" := by
  intro always
  have reached : Reachable gateWiring.registry payingWorld (reloaded tolerantEndpoints) :=
    ⟨[.external (.reload false tolerantEndpoints)], rfl⟩
  have thresholds := congrArg (Option.map Decisions.thresholds) (always _ reached)
  revert thresholds
  decide +kernel

end SelfService
