/-
What the registry keeps for one port is out of the reach of all others.

The breakers, the fallback slots and the cache are shared by all ports.  A call
on one port updates them at that port only, and whatever it asks of the cache
concerns its own keys: its pattern selects no key of another port.
-/

import SelfService.Caching.KeyCodes
import SelfService.EventLoop.Bystanders
import SelfService.Port.CacheProvenance

namespace SelfService

open Data EventLoop PortRegistry

/-! ### Commands about other keys -/

namespace Backend

variable {backend : Backend} {now : Nat} {cache after : Store} {fullKey : String}

theorem get?_of_get_ne (backend : Backend) (now : Nat) {key : String}
    (different : getFullKey backend.options key ≠ fullKey) :
    (MemoryCacheService.get backend.options now key cache).2.get? fullKey = cache.get? fullKey := by
  cases found : cache.get? (getFullKey backend.options key) with
  | none => rw [MemoryCacheService.get_of_missing found]
  | some entry =>
      cases gone : entry.expired now with
      | false => rw [MemoryCacheService.get_of_live found gone]
      | true =>
          rw [MemoryCacheService.get_of_expired found gone, OrderedMap.get?_erase,
            if_neg different.symm]

/-- The command reads, writes or deletes what is kept under the key. -/
def concerns (backend : Backend) (fullKey : String) : CacheCommand → Bool
  | .get key | .ttl key => getFullKey backend.options key = fullKey
  | command => backend.touches fullKey command

theorem apart_memory (kind : backend.kind = .memory) {command : CacheCommand}
    {answer : command.Answer} (room : backend.overflows cache command = false)
    (performed : backend.performMemory now cache command answer = some after)
    (apart : backend.concerns fullKey command = false) :
    after.get? fullKey = cache.get? fullKey := by
  have within {key : String} (room : backend.overflows cache (.set key .null none) = false) :
      (backend.options.maxEntries ≤ cache.size &&
        !cache.contains (getFullKey backend.options key)) = false := by
    simpa [overflows, kind] using room
  cases command with
  | get key =>
      cases answer with
      | failed applied reason => simp [performMemory] at performed
      | ok value =>
          obtain ⟨-, agreed⟩ := Option.ite_none_right_eq_some.mp performed
          cases agreed
          exact get?_of_get_ne backend now (of_decide_eq_false apart)
  | set key value ttl =>
      cases answer with
      | failed applied reason => simp [performMemory] at performed
      | ok done =>
          cases performed
          exact MemoryCacheService.get?_set_of_ne (within room) (of_decide_eq_false apart)
  | setIfNotExist key value ttl =>
      cases answer with
      | failed applied reason => simp [performMemory] at performed
      | ok won =>
          obtain ⟨-, agreed⟩ := Option.ite_none_right_eq_some.mp performed
          cases agreed
          rcases MemoryCacheService.setIfNotExist_cases key value ttl with lost | claimed
          · rw [lost]
          · rw [claimed]
            exact MemoryCacheService.get?_set_of_ne (within room) (of_decide_eq_false apart)
  | delete key =>
      have other : getFullKey backend.options key ≠ fullKey := of_decide_eq_false apart
      cases answer with
      | failed applied reason => simp [performMemory] at performed
      | ok done =>
          cases performed
          rw [MemoryCacheService.delete, OrderedMap.get?_erase, if_neg other.symm]
  | ttl key =>
      cases answer with
      | failed applied reason => simp [performMemory] at performed
      | ok seconds =>
          obtain ⟨-, agreed⟩ := Option.ite_none_right_eq_some.mp performed
          cases agreed
          rfl
  | deleteByPattern pattern =>
      have spared : MemoryCacheService.selects backend.options pattern fullKey = false := by
        simpa [concerns, touches, selects, kind] using apart
      cases answer with
      | failed applied reason => simp [performMemory] at performed
      | ok count =>
          obtain ⟨-, agreed⟩ := Option.ite_none_right_eq_some.mp performed
          cases agreed
          rw [MemoryCacheService.deleteByPattern, OrderedMap.get?_eraseWhere, spared]
          rfl
  | keys pattern => simp [performMemory] at performed
  | del fullKeys => simp [performMemory] at performed

/-- Over Redis a command that is not answered may have taken effect, but only where it was sent. -/
theorem apart_redis (kind : backend.kind = .redis) {command : CacheCommand}
    {answer : command.Answer}
    (performed : backend.performRedis now cache command answer = some after)
    (apart : backend.touches fullKey command = false) :
    after.get? fullKey = cache.get? fullKey := by
  cases kept : after.get? fullKey with
  | some entry =>
      have served : backend.perform now cache command answer = some after := by
        rw [perform, kind]
        exact performed
      rcases kept_or_written served kept with found | ⟨key, wrote, same⟩
      · exact found.symm
      · -- what was written is what the command touches
        have touched : backend.touches fullKey command = true := by
          cases command with
          | set other value ttl =>
              obtain ⟨-, written⟩ := Option.ite_none_right_eq_some.mp wrote
              cases written
              exact decide_eq_true same.symm
          | setIfNotExist other value ttl =>
              cases answer with
              | ok won =>
                  obtain ⟨-, written⟩ := Option.ite_none_right_eq_some.mp wrote
                  cases written
                  exact decide_eq_true same.symm
              | failed applied reason =>
                  obtain ⟨-, written⟩ := Option.ite_none_right_eq_some.mp wrote
                  cases written
                  exact decide_eq_true same.symm
          | _ => cases wrote
        rw [apart] at touched
        cases touched
  | none =>
      cases found : cache.get? fullKey with
      | none => rfl
      | some entry =>
          rw [retained_redis performed apart found] at kept
          cases kept

/-- A command leaves every key alone that it does not concern, as long as nothing overflows. -/
theorem get?_of_perform_apart {command : CacheCommand} {answer : command.Answer}
    (room : backend.overflows cache command = false)
    (performed : backend.perform now cache command answer = some after)
    (apart : backend.concerns fullKey command = false) :
    after.get? fullKey = cache.get? fullKey := by
  unfold perform at performed
  cases kind : backend.kind with
  | memory =>
      rw [kind] at performed
      exact apart_memory kind room performed apart
  | redis =>
      rw [kind] at performed
      refine apart_redis kind performed ?_
      cases command with
      | get key => rfl
      | ttl key => rfl
      | _ => exact apart

end Backend

/-! ### The keys of two ports -/

/-- A port name without a colon and without pattern symbols. -/
structure PlainName (portName : String) : Prop where
  text : plainText portName = true
  single : ':' ∉ portName.toList

section Keys

variable {options : CacheOptions} {portName other : String}

theorem portPattern_eq (portName : String) :
    portPattern portName = "cache:v2:port:" ++ portName ++ ":" ++ "*" := by
  simp only [portPattern, String.append_assoc]
  rfl

theorem PlainName.word (plain : PlainName portName) :
    plainText ("cache:v2:port:" ++ portName ++ ":") = true := by
  simp [plainText_append, plain.text, show plainText "cache:v2:port:" = true by decide,
    show plainText ":" = true by decide]

/-- No key of another port begins as the pattern of a port does. -/
theorem begins_otherwise {units : Char → List Nat} (apart : ColonApart units)
    (plain : PlainName portName) (kept : PlainName other) (different : portName ≠ other)
    (hash : ShortHash) (rest : List Nat) :
    encode units (getFullKey options (cacheKeyOf other hash)) ≠
      encode units (getFullKey options ("cache:v2:port:" ++ portName ++ ":")) ++ rest := by
  intro begins
  simp only [getFullKey_eq, encode_append, cacheKeyOf, List.append_assoc] at begins
  have same := List.append_cancel_left (List.append_cancel_left begins)
  rw [← List.append_assoc, ← List.append_assoc] at same
  exact different (apart.names_eq kept.single plain.single same).symm

/-- The pattern of a port selects no key of another port. -/
theorem unselected_in_memory (plainPrefix : plainText options.keyPrefix = true)
    (plain : PlainName portName) (kept : PlainName other) (different : portName ≠ other)
    (hash : ShortHash) : MemoryCacheService.selects options (portPattern portName)
      (getFullKey options (cacheKeyOf other hash)) = false := by
  rw [← Bool.not_eq_true, portPattern_eq]
  intro selected
  obtain ⟨rest, begins, -⟩ :=
    (MemoryCacheService.selects_plain_iff plainPrefix plain.word _).mp selected
  exact begins_otherwise utf16_colonApart plain kept different hash rest begins

theorem unselected_in_redis (plainPrefix : plainText options.keyPrefix = true)
    (plain : PlainName portName) (kept : PlainName other) (different : portName ≠ other)
    (hash : ShortHash) : RedisCacheService.selects options (portPattern portName)
      (getFullKey options (cacheKeyOf other hash)) = false := by
  rw [← Bool.not_eq_true, portPattern_eq]
  intro selected
  obtain ⟨rest, begins⟩ :=
    (RedisCacheService.selects_plain_iff plainPrefix plain.word _).mp selected
  exact begins_otherwise utf8_colonApart plain kept different hash rest begins

theorem unselected_of_other (backend : Backend) (plain : PlainName portName)
    (kept : PlainName other) (different : portName ≠ other) (hash : ShortHash) :
    backend.selects (portPattern portName)
      (getFullKey backend.options (cacheKeyOf other hash)) = false := by
  unfold Backend.selects
  cases backend.kind with
  | memory => exact unselected_in_memory backend.plainPrefix plain kept different hash
  | redis => exact unselected_in_redis backend.plainPrefix plain kept different hash

end Keys

/-! ### What is kept for a port -/

/-- The breaker of a port, its fallback slot and its cached answers. -/
structure Holdings where
  breaker : Option CircuitBreakerState
  slot : Option JsValue
  cached : ShortHash → Option CacheEntry

def holdings (wiring : Wiring) (portName : String) (world : World registryOnly) : Holdings where
  breaker := world.circuitBreakers.get? portName
  slot := world.fallbackCache.get? portName
  cached hash := world.cache.get? (getFullKey wiring.backend.options (cacheKeyOf portName hash))

/-- A call on another port, under a name that can be told apart. -/
structure OnOtherPort (portName : String) (call : PortCall) : Prop where
  other : call.portName ≠ portName
  plain : PlainName call.portName

section Ports

variable {wiring : Wiring} {portName : String}

theorem holdings_setBreaker {other : String} (different : other ≠ portName)
    (change : CircuitBreakerState → CircuitBreakerState) (world : World registryOnly) :
    holdings wiring portName (setBreaker other change world) = holdings wiring portName world := by
  unfold setBreaker
  split
  · simp only [holdings, Holdings.mk.injEq, and_self, and_true]
    exact OrderedMap.get?_set_of_ne _ _ different
  · rfl

/-- What a call on another port updates is not kept for this one. -/
theorem PortUpdate.holdings_eq {call : PortCall} (kept : PlainName portName)
    (elsewhere : OnOtherPort portName call) {update : World registryOnly → World registryOnly}
    (updates : PortUpdate wiring call.portName update) (world : World registryOnly) :
    holdings wiring portName (update world) = holdings wiring portName world := by
  cases updates with
  | read => rfl
  | probe => exact holdings_setBreaker elsewhere.other _ world
  | success => exact holdings_setBreaker elsewhere.other _ world
  | failure error => exact holdings_setBreaker elsewhere.other _ world
  | slot data =>
      simp only [holdings, FallbackProvider.setCached, Holdings.mk.injEq, and_true, true_and]
      exact OrderedMap.get?_set_of_ne _ _ elsewhere.other
  | invalidate =>
      simp only [holdings, Holdings.mk.injEq, true_and]
      funext hash
      rw [MemoryCacheService.deleteByPattern, OrderedMap.get?_eraseWhere]
      have spared : MemoryCacheService.selects wiring.backend.options (portPattern call.portName)
          (getFullKey wiring.backend.options (cacheKeyOf portName hash)) = false :=
        unselected_in_memory wiring.backend.plainPrefix elsewhere.plain kept elsewhere.other hash
      exact if_neg (ne_true_of_eq_false spared)

theorem PortCall.invocation_portName (call : PortCall) :
    call.invocation.portName = call.portName := by
  cases call <;> rfl

/-- A call on another port leaves alone what is kept for this one. -/
theorem portBody_leaves {call : PortCall} (kept : PlainName portName)
    (elsewhere : OnOtherPort portName call) :
    (portBody wiring.remote call).Leaves (holdings wiring portName) :=
  (portBody_updates wiring call).leaves fun _ updates world =>
    updates.holdings_eq kept elsewhere world

/-- What a call on another port asks of the cache concerns none of this port's keys. -/
theorem Issues.apart {s : PortSnapshot registryOnly} {tid : Nat} {call : PortCall}
    {command : CacheCommand} (kept : PlainName portName) (elsewhere : OnOtherPort portName call)
    (listings : Always (ListingLaw wiring.remote) s.trace)
    (issued : Issues wiring.remote tid call.invocation s (.cache command)) (hash : ShortHash) :
    wiring.backend.concerns (getFullKey wiring.backend.options (cacheKeyOf portName hash))
      command = false := by
  have otherKey {key : String} (different : key ≠ cacheKeyOf portName hash) :
      decide (getFullKey wiring.backend.options key =
        getFullKey wiring.backend.options (cacheKeyOf portName hash)) = false :=
    decide_eq_false fun same => different (getFullKey_injective _ same)
  have record (rawKey : String) :
      InboundIdempotencyService.buildCacheKey wiring.remote rawKey ≠ cacheKeyOf portName hash :=
    recordKey_ne _ hash portName
  have read : buildCacheKey wiring.remote call.invocation.portName call.invocation.method
      call.invocation.params ≠ cacheKeyOf portName hash :=
    fun same => elsewhere.other (call.invocation_portName.symm.trans (cacheKeyOf_injective same).1)
  have spared : wiring.backend.selects (portPattern call.invocation.portName)
      (getFullKey wiring.backend.options (cacheKeyOf portName hash)) = false := by
    rw [call.invocation_portName]
    exact unselected_of_other wiring.backend elsewhere.plain kept elsewhere.other hash
  cases issued with
  | retrieve rawKey keyed => exact otherKey (record rawKey)
  | record rawKey adapter data keyed seen => exact otherKey (record rawKey)
  | lookup readOnly => exact otherKey read
  | fill adapter data cachedAt ttl readOnly seen => exact otherKey read
  | erase => exact spared
  | list => rfl
  | sweep fullKeys listed =>
      obtain ⟨time, member⟩ := listed
      obtain ⟨before, after, split⟩ := List.append_of_mem member
      rw [← Bool.not_eq_true]
      intro swept
      have chosen := listings before _ after split _ (List.contains_iff_mem.mp swept)
      rw [show wiring.remote.backend.selects _ _ = false from spared] at chosen
      cases chosen

/-! ### Steps and stretches -/

/-- No call on the port moves, and the cache loses none of its answers: it has room for what is
written, and does not drop them. -/
def PassesBy (wiring : Wiring) (portName : String)
    (p : Pool (portSignature registryOnly) Resolution) :
    Action (portSignature registryOnly) PortExternal → Prop
  | .call _ => True
  | .resume tid => ∀ call task, p.threads[tid]? = some (.running (.inl call) task) →
      OnOtherPort portName call
  | .answer tid request _ =>
      (∀ call task, p.threads[tid]? = some (.running (.inl call) task) →
        OnOtherPort portName call) ∧
      ∀ command, request = .inl (.cache command) →
        wiring.backend.overflows p.snapshot.state.cache command = false
  | .external event => ∀ fullKey, event = .evict fullKey → ∀ hash,
      fullKey ≠ getFullKey wiring.backend.options (cacheKeyOf portName hash)

variable {world : World registryOnly} {p next : Pool (portSignature registryOnly) Resolution}

/-- Who is answered is known by what it asked. -/
theorem holdings_answered (kept : PlainName portName) (reached : Reachable wiring.registry world p)
    {tid : Nat} {request : (portSignature registryOnly).Req}
    {answer : (portSignature registryOnly).Ans request}
    (passes : PassesBy wiring portName p (.answer tid request answer))
    (stepped : p.step wiring.registry (.answer tid request answer) = some next) :
    holdings wiring portName next.snapshot.state = holdings wiring portName p.snapshot.state := by
  have onwards := reached.step stepped
  obtain ⟨call, rest, state, found, performed, logged⟩ := Pool.answered stepped
  have after : next.snapshot.state = state := by rw [logged]; rfl
  rw [after]
  rcases request with (command | ref | payload) | request
  · have performed : performPort wiring.remote p.snapshot.state (.cache command) answer =
        some state := performed
    obtain ⟨-, cache, served, rfl⟩ := performPort_cache performed
    simp only [holdings, Holdings.mk.injEq, true_and]
    funext hash
    have chronicle := registry_chronicle onwards
    have split : next.snapshot.trace = p.snapshot.trace ++
        ⟨tid, p.snapshot.state.now, .answered (.inl (.cache command)) answer⟩ :: [] := by
      rw [logged]
      rfl
    obtain ⟨s, past, asked⟩ := chronicle.owned.asked _ _ _ split
    have listings : Always (ListingLaw wiring.remote) s.trace := by
      rw [past]
      exact chronicle.owned.listings.earlier (split ▸ List.prefix_append _ _)
    cases asked with
    | registry port began issued =>
        rw [Snapshot.Saw, past] at began
        cases reached.started_unique (reached.running_began found) began
        exact Backend.get?_of_perform_apart (passes.2 command rfl) served
          (issued.apart kept (passes.1 port _ found) listings hash)
    | service other began allowed => exact allowed.elim
  · cases performed
    rfl
  · cases (answer : Reply (Option String)) with
    | ok jobId =>
        cases performed
        rfl
    | failed applied reason =>
        cases performed
        cases applied <;> rfl
  · exact request.elim

/-- A step that passes a port by leaves alone what is kept for it. -/
theorem holdings_step (kept : PlainName portName) (reached : Reachable wiring.registry world p)
    {action : Action (portSignature registryOnly) PortExternal}
    (passes : PassesBy wiring portName p action)
    (stepped : p.step wiring.registry action = some next) :
    holdings wiring portName next.snapshot.state = holdings wiring portName p.snapshot.state := by
  cases action with
  | call call =>
      cases stepped
      rfl
  | resume tid =>
      let foreign : PortCall ⊕ registryOnly.Call → Prop :=
        Sum.elim (OnOtherPort portName) fun _ => False
      have bodies (call : PortCall ⊕ registryOnly.Call) (kind : foreign call) :
          (wiring.registry.body call).Leaves (holdings wiring portName) := by
        cases call with
        | inl call => exact portBody_leaves kept kind
        | inr call => exact kind.elim
      have running := stepped
      simp only [Pool.step] at running
      split at running
      · rename_i call task found
        cases call with
        | inl call =>
            exact (reached.spares bodies).resumed found (passes call task found) stepped
        | inr call => exact call.elim
      · cases running
  | answer tid request answer => exact holdings_answered kept reached passes stepped
  | external event =>
      obtain ⟨state, moved, rfl⟩ := Option.map_eq_some_iff.mp stepped
      have moved : World.external wiring.remote p.snapshot.state event = some state := moved
      cases event with
      | tick millis =>
          cases moved
          rfl
      | evict fullKey =>
          have erased : state = { p.snapshot.state with
              cache := p.snapshot.state.cache.erase fullKey } := (Option.some.inj moved).symm
          subst erased
          simp only [holdings, Holdings.mk.injEq, true_and]
          funext hash
          rw [OrderedMap.get?_erase, if_neg (passes fullKey rfl hash).symm]
      | reload mockMode endpointConfig =>
          cases moved
          rfl

end Ports

/-! ### A payment and the invoices -/

def apartWiring : Wiring :=
  .configured true (fun _ => ⟨"e3b0c44298fc1c14", isHex_empty⟩)
    fun _ => ⟨"d29ad42d4a509ebb", isHex_params⟩

def twoPorts : World registryOnly :=
  registerAll ["invoice", "payment"] (bareWorld 1700000000000 .empty apiEndpoints ())

def payInvoice : Invocation where
  context := none
  portName := "payment"
  method := "create-payment"
  params := .obj [("invoiceId", .str "HD-1")]
  idempotencyKey := none

/-- The payment is made, and its port's slot filled. -/
def paid : List (Action (portSignature registryOnly) PortExternal) :=
  [.resume 0, .answer 0 (.inl (.adapter ⟨"payment", .mock⟩ none "create-payment"
    (.obj [("invoiceId", .str "HD-1")]))) (.ok (.obj [("status", .str "pending")])), .resume 0]

end SelfService
