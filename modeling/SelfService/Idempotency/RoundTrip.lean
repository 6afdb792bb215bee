/-
Whether a stored result is found again.

The envelope carries a `Date`.  A storage that keeps objects gives it back; one
that keeps JSON text gives back a string, on which the lookup stumbles, and the
error is taken for a miss.
-/

import SelfService.Idempotency.IdempotencyService

namespace SelfService

open Data EventLoop

namespace IdempotencyService

/-! ### The envelope -/

theorem envelope_result (now : Nat) (result : JsValue) (commandType : String) (ttl : Nat) :
    (envelope now result commandType ttl).field "result" = result := rfl

/-- As JSON the date of the envelope is a text. -/
theorem storedAt_roundTrip (now : Nat) (result : JsValue) (commandType : String) (ttl : Nat) :
    (envelope now result commandType ttl).roundTrip.field "storedAt" =
      .str (JsValue.toISOString now) := by
  cases result <;>
    simp [envelope, JsValue.roundTrip, JsValue.roundTripFields, JsValue.field, List.lookup_cons]

variable {X : Extension}

theorem checked_envelope (now : Nat) (result : JsValue) (commandType : String) (ttl : Nat) :
    (checked (envelope now result commandType ttl) : PortTask X JsValue) =
      Task.settleWith (.ok (envelope now result commandType ttl)) := rfl

/-- The lookup throws on an envelope that came back from JSON. -/
theorem checked_roundTrip (now : Nat) (result : JsValue) (commandType : String) (ttl : Nat) :
    (checked (envelope now result commandType ttl).roundTrip : PortTask X JsValue) =
      Task.settleWith (.error notADate) := by
  have truthy : (envelope now result commandType ttl).roundTrip.truthy = true := by
    simp [envelope, JsValue.roundTrip, JsValue.truthy]
  unfold checked
  rw [if_pos truthy, storedAt_roundTrip]
  rfl

/-- The cleanup spares what has not expired. -/
theorem cleanup_keeps {now : Nat} {store : MemoryStore} {key : String} {entry : MemoryEntry}
    (found : store.get? key = some entry) (fresh : now ≤ entry.expiresAt) :
    (cleanupMemoryStore now store).get? key = some entry := by
  have kept : ¬ entry.expiresAt < now := Nat.not_lt.mpr fresh
  rw [cleanupMemoryStore, OrderedMap.get?_eraseWhere]
  simp [found, kept]

end IdempotencyService

/-! ### Sequential use -/

section Sequential

variable (wiring : Wiring) (cacheService : Bool)

/-- The cache is up; nothing else is asked for. -/
def reliably : Answering (portSignature idempotency)
  | world, .inl (.cache command) => wiring.backend.reliable world.now world.cache command
  | _, .inl (.adapter _ _ _ _) => .error (.error "unavailable")
  | _, .inl (.queueAdd _) => .ok none
  | _, .inr request => request.elim

/-- Nobody touched what is kept under this key. -/
def SameEntry (cacheKey : String) (stored later : World idempotency) : Prop :=
  if cacheService then
    later.cache.get? (getFullKey wiring.backend.options cacheKey) =
      stored.cache.get? (getFullKey wiring.backend.options cacheKey)
  else later.service.get? cacheKey = stored.service.get? cacheKey

/-- A lookup in this world answers with an envelope that holds the result. -/
def FindsResult (idempotencyKey : String) (options : Option IdempotencyOptions)
    (result : JsValue) (world : World idempotency) : Prop :=
  ∃ entry final,
    runAlone (idempotencySystem wiring cacheService) (reliably wiring)
      (IdempotencyService.getExisting (idempotencyHost cacheService) idempotencyKey options)
      world = some (.ok entry, final) ∧
    entry.isNullish = false ∧ entry.field "result" = result

/-- Envelopes are kept as objects: in the map of the process or in the memory cache. -/
def KeepsObjects : Prop := cacheService = false ∨ wiring.backend.kind = .memory

variable {wiring cacheService} {world : World idempotency} {key : String}

/-- A read of an entry that has not expired. -/
theorem runAlone_get {entry : CacheEntry}
    (found : world.cache.get? (getFullKey wiring.backend.options key) = some entry)
    (fresh : entry.expired world.now = false) :
    runAlone (idempotencySystem wiring cacheService) (reliably wiring) (CacheService.get key)
      world = some (.ok entry.value, world) := by
  obtain ⟨answered, served⟩ := Backend.reliable_get found fresh
  have performed : (idempotencySystem wiring cacheService).perform world
      (.inl (.cache (.get key))) (Reply.ok entry.value) = some world := by
    change (if true = true then (wiring.backend.perform _ _ _ _).map _ else none) = _
    rw [served]
    rfl
  change (((idempotencySystem wiring cacheService).perform world (.inl (.cache (.get key)))
    (wiring.backend.reliable world.now world.cache (.get key))).bind fun after =>
      (some (Except.ok ((wiring.backend.reliable world.now world.cache (.get key)).getD .null),
        after) : Option (Except Exn JsValue × World idempotency))) = _
  rw [answered, performed]
  rfl

/-- A write of an envelope, with its result. -/
theorem runAlone_set {value : JsValue} (defined : value ≠ .undefined) (ttl : Nat) :
    ∃ cache, runAlone (idempotencySystem wiring cacheService) (reliably wiring)
        (CacheService.set key value (some ttl)) world =
          some (.ok (), { world with cache := cache }) ∧
      cache.get? (getFullKey wiring.backend.options key) =
        some ⟨wiring.backend.stored value,
          if ttl = 0 then none else some (world.now + ttl * 1000)⟩ := by
  obtain ⟨cache, served, found⟩ := Backend.reliable_set key defined ttl
  refine ⟨cache, ?_, found⟩
  have performed : (idempotencySystem wiring cacheService).perform world
      (.inl (.cache (.set key value (some ttl)))) (Reply.ok ()) =
        some { world with cache := cache } := by
    change (if true = true then (wiring.backend.perform _ _ _ _).map _ else none) = _
    rw [served]
    rfl
  change (((idempotencySystem wiring cacheService).perform world
    (.inl (.cache (.set key value (some ttl)))) (Reply.ok ())).bind fun after =>
      (some (Except.ok (), after) : Option (Except Exn Unit × World idempotency))) = _
  rw [performed]
  rfl

/-- A lookup is a read of the cache and a check, whose error counts as a miss. -/
theorem getExisting_cached {options : Option IdempotencyOptions} {entry : CacheEntry}
    (found : world.cache.get? (getFullKey wiring.backend.options
      (IdempotencyService.buildCacheKey key options)) = some entry)
    (fresh : entry.expired world.now = false) {checked : Except Exn JsValue}
    (check : IdempotencyService.checked entry.value =
      (Task.settleWith checked : PortTask idempotency JsValue)) :
    runAlone (idempotencySystem wiring true) (reliably wiring)
      (IdempotencyService.getExisting (idempotencyHost true) key options) world =
        some (.ok (checked.toOption.getD .null), world) := by
  unfold IdempotencyService.getExisting
  simp only [show (idempotencyHost true).cacheService = true from rfl, if_true]
  rw [runAlone_bind, runAlone_attempt]
  unfold IdempotencyService.lookup
  rw [runAlone_bind, runAlone_get found fresh]
  change (Option.map _ (runAlone _ _ (IdempotencyService.checked entry.value) world)).bind _ = _
  rw [check]
  cases checked with
  | ok cached => rfl
  | error error => rfl

/-- In a cache that holds the envelope, it is found exactly if it is still an object. -/
theorem finds_cached_iff {options : Option IdempotencyOptions} {now : Nat} {result : JsValue}
    {commandType : String} {ttl : Nat} {expiry : Option Nat}
    (found : world.cache.get? (getFullKey wiring.backend.options
      (IdempotencyService.buildCacheKey key options)) = some
        ⟨wiring.backend.stored (IdempotencyService.envelope now result commandType ttl), expiry⟩)
    (fresh : expiry.any (fun expiry => expiry < world.now) = false) :
    FindsResult wiring true key options result world ↔ KeepsObjects wiring true := by
  cases kind : wiring.backend.kind with
  | memory =>
      have held : wiring.backend.stored (IdempotencyService.envelope now result commandType ttl) =
          IdempotencyService.envelope now result commandType ttl := by
        simp [Backend.stored, kind]
      rw [held] at found
      constructor
      · intro _
        exact Or.inr kind
      · intro _
        exact ⟨_, world, getExisting_cached found fresh
          (IdempotencyService.checked_envelope now result commandType ttl), rfl,
          IdempotencyService.envelope_result now result commandType ttl⟩
  | redis =>
      have held : wiring.backend.stored (IdempotencyService.envelope now result commandType ttl) =
          (IdempotencyService.envelope now result commandType ttl).roundTrip := by
        simp [Backend.stored, kind]
      rw [held] at found
      constructor
      · rintro ⟨entry, final, looked, present, _⟩
        have missed := getExisting_cached found fresh
          (IdempotencyService.checked_roundTrip now result commandType ttl)
        rw [missed] at looked
        cases looked
        cases present
      · rintro (without | memory)
        · cases without
        · rw [kind] at memory
          cases memory

/-- In the map of the process, an envelope is found until it expires. -/
theorem finds_inProcess {options : Option IdempotencyOptions} {now : Nat} {result : JsValue}
    {commandType : String} {ttl : Nat} {entry : MemoryEntry}
    (found : world.service.get? (IdempotencyService.buildCacheKey key options) = some entry)
    (held : entry.result = IdempotencyService.envelope now result commandType ttl)
    (fresh : world.now < entry.expiresAt) :
    FindsResult wiring false key options result world := by
  refine ⟨entry.result, world, ?_, ?_, ?_⟩
  · have inMap : ((idempotencyHost false).memoryStore world.service).get?
        (IdempotencyService.buildCacheKey key options) = some entry := found
    unfold IdempotencyService.getExisting
    simp only [show (idempotencyHost false).cacheService = false from rfl, Bool.false_eq_true,
      if_false]
    rw [runAlone_read]
    simp only [inMap, if_pos fresh]
    rfl
  · rw [held]
    rfl
  · rw [held]
    exact IdempotencyService.envelope_result now result commandType ttl

end Sequential

/-- A stored result is found until its time is over, exactly where objects are kept. -/
theorem stored_result_found_iff (wiring : Wiring) (cacheService : Bool)
    (world : World idempotency) (key : String) (result : JsValue) (commandType : String)
    (options : Option IdempotencyOptions) :
    ∃ stored, runAlone (idempotencySystem wiring cacheService) (reliably wiring)
        (IdempotencyService.store (idempotencyHost cacheService) key result commandType options)
        world = some (.ok (), stored) ∧
      ∀ later, SameEntry wiring cacheService (IdempotencyService.buildCacheKey key options)
          stored later →
        later.now < world.now + IdempotencyService.ttlOf options * 1000 →
        (FindsResult wiring cacheService key options result later ↔
          KeepsObjects wiring cacheService) := by
  let ttl := IdempotencyService.ttlOf options
  let envelope := IdempotencyService.envelope world.now result commandType ttl
  cases cacheService with
  | true =>
      obtain ⟨cache, ran, found⟩ := @runAlone_set wiring true world
        (IdempotencyService.buildCacheKey key options) envelope (by simp [envelope,
          IdempotencyService.envelope]) ttl
      refine ⟨{ world with cache := cache }, ?_, ?_⟩
      · unfold IdempotencyService.store
        rw [runAlone_read]
        simp only [show (idempotencyHost true).cacheService = true from rfl, if_true]
        rw [runAlone_bind, runAlone_attempt, ran]
        rfl
      · intro later same early
        have foundLater := (same : later.cache.get? _ = _).trans found
        apply finds_cached_iff foundLater
        split
        · rfl
        · have notYet : ¬ world.now + ttl * 1000 < later.now := by omega
          simp [notYet]
  | false =>
      refine ⟨_, rfl, ?_⟩
      intro later same early
      have found : later.service.get? (IdempotencyService.buildCacheKey key options) =
          some ⟨envelope, world.now + ttl * 1000⟩ := by
        refine (same : later.service.get? _ = _).trans ?_
        apply IdempotencyService.cleanup_keeps
        · exact OrderedMap.get?_set_self _ _ _
        · exact Nat.le_add_right _ _
      constructor
      · intro _
        exact Or.inl rfl
      · intro _
        exact finds_inProcess found rfl early

/-- A lookup that nobody interferes with ends so in any pool. -/
theorem lookup_in_pool {wiring : Wiring} {cacheService : Bool} {key : String} {result : JsValue}
    {options : Option IdempotencyOptions} (p : Pool (portSignature idempotency) Resolution)
    (finds : FindsResult wiring cacheService key options result p.snapshot.state) :
    ∃ schedule q entry, p.run (idempotencySystem wiring cacheService) schedule = some q ∧
      q.snapshot.Saw p.threads.length
        (.finished (.inr (.getExisting key options)) (.ok (.value entry))) ∧
      entry.field "result" = result := by
  obtain ⟨entry, final, ran, _, same⟩ := finds
  let sys := idempotencySystem wiring cacheService
  let call : (portSignature idempotency).Call := .inr (.getExisting key options)
  let called : Pool (portSignature idempotency) Resolution :=
    { snapshot := p.snapshot.log sys p.threads.length (.started call)
      threads := p.threads ++ [.running call (sys.body call)] }
  have found : called.threads[p.threads.length]? = some (.running call (sys.body call)) := by
    simp [called]
  have body : runAlone sys (reliably wiring) (sys.body call) called.snapshot.state =
      some (.ok (.value entry), final) := by
    change runAlone sys (reliably wiring) (IdempotencyService.getExisting
      (idempotencyHost cacheService) key options >>= _) p.snapshot.state = _
    rw [runAlone_bind, ran]
    rfl
  obtain ⟨rest, q, run, _, ended⟩ := run_of_runAlone (sys.body call) found body
  refine ⟨.call call :: .resume p.threads.length :: rest, q, entry, ?_, ⟨_, ended⟩, same⟩
  exact run

/-! ### A lookup that misses -/

def paymentResult : JsValue :=
  .obj [("processed", .bool true), ("paymentId", .str "PAY-1"), ("status", .str "success")]

def redisWiring : Wiring :=
  .configured true (fun _ => ⟨"e3b0c44298fc1c14", isHex_empty⟩)
    fun _ => ⟨"e3b0c44298fc1c14", isHex_empty⟩

def emptyWorld : World idempotency := PortRegistry.bareWorld 1700000000000 .empty .empty .empty

/-- Over Redis, the result is stored and a lookup at the same instant misses it. -/
theorem stored_result_missed :
    ∃ stored final, runAlone (idempotencySystem redisWiring true) (reliably redisWiring)
        (IdempotencyService.store (idempotencyHost true) "PAY-1" paymentResult
          "HandlePaymentWebhook" none) emptyWorld = some (.ok (), stored) ∧
      runAlone (idempotencySystem redisWiring true) (reliably redisWiring)
        (IdempotencyService.getExisting (idempotencyHost true) "PAY-1" none) stored =
          some (.ok .null, final) :=
  ⟨_, _, rfl, rfl⟩

def memoryWiring : Wiring :=
  .configured false (fun _ => ⟨"e3b0c44298fc1c14", isHex_empty⟩)
    fun _ => ⟨"e3b0c44298fc1c14", isHex_empty⟩

theorem stored_result_found_in_memory :
    ∃ stored, runAlone (idempotencySystem memoryWiring true) (reliably memoryWiring)
        (IdempotencyService.store (idempotencyHost true) "PAY-1" paymentResult
          "HandlePaymentWebhook" none) emptyWorld = some (.ok (), stored) ∧
      FindsResult memoryWiring true "PAY-1" none paymentResult
        { stored with now := 1700003599999 } := by
  obtain ⟨stored, ran, found⟩ := stored_result_found_iff memoryWiring true emptyWorld "PAY-1"
    paymentResult "HandlePaymentWebhook" none
  have early : 1700003599999 < emptyWorld.now + IdempotencyService.ttlOf none * 1000 := by decide
  exact ⟨stored, ran, (found { stored with now := 1700003599999 } rfl early).mpr (Or.inr rfl)⟩

end SelfService
