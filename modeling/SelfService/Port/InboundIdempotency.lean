/-
Claims, checks and stores of inbound messages.

The service keeps its markers and its results under the keys that the registry
uses for its idempotent calls.  What a check may find is what somebody wrote
there: a store, an idempotent call, or a claim.
-/

import SelfService.EventLoop.Play
import SelfService.Port.CacheHistory

namespace SelfService

open Data EventLoop

namespace InboundIdempotencyService

variable {X : Extension}

/-- Whether the caller may go on: it wins the key, or the store is unavailable. -/
def claim (d : Deployment X) (rawKey : String) : PortTask X Bool := do
  match ← (CacheService.setIfNotExist (buildCacheKey d rawKey) (.str "claimed")
      (some DEFAULT_TTL) : PortTask X Bool).attempt with
  | .ok won => return won
  | .error _ => return true

/-- What `check` resolves with. -/
def checkResult (cached : JsValue) : JsValue :=
  if cached.isNullish then .obj [("hit", .bool false)]
  else .obj [("hit", .bool true), ("data", cached)]

end InboundIdempotencyService

open InboundIdempotencyService

inductive InboundCall : Type
  | claim (rawKey : String)
  | check (rawKey : String)
  | store (rawKey : String) (result : JsValue)

def inbound : Extension where
  State := Unit
  Req := Empty
  Ans := Empty.elim
  Mark := Empty
  Call := InboundCall

instance : DecidableEq (portSignature inbound).Req :=
  inferInstanceAs (DecidableEq (PortRequest ⊕ Empty))

def inboundBody (d : Deployment inbound) : InboundCall → PortTask inbound Resolution
  | .claim rawKey => do
      let won ← claim d rawKey
      return .value (.bool won)
  | .check rawKey => do
      let cached ← check d rawKey
      return .value (checkResult cached)
  | .store rawKey result => do
      store d rawKey result
      return .nothing

def inboundService (d : Deployment inbound) : Service inbound where
  body := inboundBody d
  perform _ request _ := request.elim

def inboundDeployment (wiring : Wiring) (environment : CacheEnvironment) : Deployment inbound where
  toWiring := wiring
  adapter := remoteAdapter
  environment := environment

abbrev inboundSystem (wiring : Wiring) (environment : CacheEnvironment) :
    System (portSignature inbound) Resolution PortExternal :=
  portSystem (inboundDeployment wiring environment)
    (inboundService (inboundDeployment wiring environment))

abbrev InboundTrace := PortTrace inbound

abbrev InboundEntry := PortTraceEntry inbound

abbrev InboundPool := Pool (portSignature inbound) Resolution

/-! ### What the calls ask for -/

/-- The commands of the service. -/
inductive InboundIssues (d : Deployment inbound) : PortRequest ⊕ Empty → Prop
  | claim (rawKey : String) : InboundIssues d (.inl (.cache
      (.setIfNotExist (buildCacheKey d rawKey) (.str "claimed") (some DEFAULT_TTL))))
  | check (rawKey : String) : InboundIssues d (.inl (.cache (.get (buildCacheKey d rawKey))))
  | store (rawKey : String) (result : JsValue) : InboundIssues d (.inl (.cache
      (.set (buildCacheKey d rawKey) result (some DEFAULT_TTL))))

theorem inbound_asks (d : Deployment inbound) (call : InboundCall) :
    (inboundBody d call).Asks (InboundIssues d) fun _ => True := by
  cases call with
  | claim rawKey => exact ⟨.claim rawKey, fun _ => trivial⟩
  | check rawKey => exact ⟨.check rawKey, fun _ => trivial⟩
  | store rawKey result =>
      refine ⟨.store rawKey result, ?_⟩
      intro reply
      cases reply with
      | ok done => exact trivial
      | failed applied reason => exact trivial

/-- What the call of the service has shown when it asks or ends. -/
def InboundLaw (d : Deployment inbound) (past : InboundTrace) (entry : InboundEntry) : Prop :=
  match entry.event with
  | .answered (.inl (.cache (.set key value ttl))) _ => ∃ rawKey,
      Saw past entry.tid (.started (.inr (.store rawKey value))) ∧
        key = buildCacheKey d rawKey ∧ ttl = some DEFAULT_TTL
  | .answered (.inl (.cache (.setIfNotExist key value ttl))) _ => ∃ rawKey,
      Saw past entry.tid (.started (.inr (.claim rawKey))) ∧
        key = buildCacheKey d rawKey ∧ value = .str "claimed" ∧ ttl = some DEFAULT_TTL
  | .answered (.inl (.cache (.get key))) _ => ∃ rawKey,
      Saw past entry.tid (.started (.inr (.check rawKey))) ∧ key = buildCacheKey d rawKey
  | .finished (.inr (.claim rawKey)) result => ∃ began asked reply,
      past = [⟨entry.tid, began, .started (.inr (.claim rawKey))⟩,
        ⟨entry.tid, asked, .answered (.inl (.cache (.setIfNotExist (buildCacheKey d rawKey)
          (.str "claimed") (some DEFAULT_TTL)))) reply⟩] ∧
        result = .ok (.value (.bool (reply.getD false)))
  | .finished (.inr (.check rawKey)) result => ∃ began asked reply,
      past = [⟨entry.tid, began, .started (.inr (.check rawKey))⟩,
        ⟨entry.tid, asked, .answered (.inl (.cache (.get (buildCacheKey d rawKey)))) reply⟩] ∧
        result = .ok (.value (checkResult (reply.getD .null)))
  | _ => True

theorem inbound_lawful {wiring : Wiring} {environment : CacheEnvironment} {tid : Nat}
    (call : InboundCall) :
    Lawful (inboundSystem wiring environment)
      (InboundLaw (inboundDeployment wiring environment)) tid (.inr call) where
  starts _ := trivial
  obeys time state := by
    cases call with
    | claim rawKey =>
        intro reply before after resumed performed
        refine ⟨⟨rawKey, ⟨time, List.mem_singleton.mpr rfl⟩, rfl, rfl, rfl⟩, ?_⟩
        exact fun moment => ⟨time, _, reply, rfl, rfl⟩
    | check rawKey =>
        intro reply before after resumed performed
        refine ⟨⟨rawKey, ⟨time, List.mem_singleton.mpr rfl⟩, rfl⟩, ?_⟩
        exact fun moment => ⟨time, _, reply, rfl, rfl⟩
    | store rawKey result =>
        intro reply before after resumed performed
        refine ⟨⟨rawKey, ⟨time, List.mem_singleton.mpr rfl⟩, rfl, rfl⟩, ?_⟩
        cases reply with
        | ok done => exact fun moment => trivial
        | failed applied reason => exact fun moment => trivial

/-! ### Keys -/

/-- The raw key a call is about. -/
def callKey : PortCall ⊕ InboundCall → Option String
  | .inl call => call.invocation.idempotencyKey
  | .inr (.claim rawKey) => some rawKey
  | .inr (.check rawKey) => some rawKey
  | .inr (.store rawKey _) => some rawKey

def keyIn (entry : InboundEntry) : Option String :=
  match entry.event with
  | .started call => callKey call
  | _ => none

/-- The raw key of the call behind a task. -/
def ownerKey (trace : InboundTrace) (tid : Nat) : Option String :=
  trace.findSome? fun entry => if entry.tid = tid then keyIn entry else none

/-- Different raw keys of the run have different hashes. -/
def keysApart (wiring : Wiring) (trace : InboundTrace) : Bool :=
  trace.all fun first => trace.all fun second =>
    match keyIn first, keyIn second with
    | some one, some other =>
        (wiring.textHash one).text ≠ (wiring.textHash other).text || one = other
    | _, _ => true

/-- Nothing is recorded or claimed yet. -/
def Unrecorded (wiring : Wiring) (world : World inbound) : Prop :=
  ∀ hash, world.cache.get? (getFullKey wiring.backend.options (cacheKeyOf hash)) = none

section Runs

variable {wiring : Wiring} {environment : CacheEnvironment} {world : World inbound}
  {p : InboundPool}

theorem inbound_chronicle (reached : Reachable (inboundSystem wiring environment) world p) :
    Chronicle (inboundDeployment wiring environment)
      (InboundIssues (inboundDeployment wiring environment)) world.cache p.snapshot :=
  chronicle_reachable rfl (inbound_asks _) reached

theorem ownerKey_of_saw (reached : Reachable (inboundSystem wiring environment) world p)
    {before after : InboundTrace} (part : p.snapshot.trace = before ++ after) {tid : Nat}
    {call : PortCall ⊕ InboundCall} (began : Saw before tid (.started call)) :
    ownerKey before tid = callKey call := by
  have grown : before <+: p.snapshot.trace := ⟨after, part.symm⟩
  obtain ⟨time, member⟩ := began
  have said (entry : InboundEntry) (there : entry ∈ before) :
      (if entry.tid = tid then keyIn entry else none) = none ∨
        (if entry.tid = tid then keyIn entry else none) = callKey call := by
    split
    · rename_i own
      obtain ⟨_, moment, event⟩ := entry
      subst own
      cases event with
      | started other =>
          right
          rw [reached.started_unique ⟨moment, grown.subset there⟩ ⟨time, grown.subset member⟩]
          rfl
      | _ => exact Or.inl rfl
    · exact Or.inl rfl
  unfold ownerKey
  cases found : before.findSome? fun entry => if entry.tid = tid then keyIn entry else none with
  | none =>
      have silent := List.findSome?_eq_none_iff.mp found _ member
      rw [if_pos rfl] at silent
      exact silent.symm
  | some rawKey =>
      obtain ⟨entry, there, spoke⟩ := List.exists_of_findSome?_eq_some found
      rcases said entry there with silent | same
      · rw [silent] at spoke
        cases spoke
      · exact spoke.symm.trans same

theorem asked_of_command (reached : Reachable (inboundSystem wiring environment) world p)
    {before after : InboundTrace} {tid time : Nat} {command : CacheCommand}
    {answer : command.Answer}
    (split : p.snapshot.trace =
      before ++ ⟨tid, time, .answered (.inl (.cache command)) answer⟩ :: after) :
    (∃ (s : PortSnapshot inbound) (call : PortCall), s.trace = before ∧
      Saw before tid (.started (.inl call)) ∧
      Issues (inboundDeployment wiring environment) tid call.invocation s (.cache command)) ∨
      ∃ call, Saw before tid (.started (.inr call)) := by
  obtain ⟨s, rfl, asked⟩ := (inbound_chronicle reached).owned.asked before _ after split
  cases asked with
  | registry call began issued => exact Or.inl ⟨s, call, rfl, began, issued⟩
  | service call began allowed => exact Or.inr ⟨call, began⟩

/-- Whoever sets a record is about its raw key. -/
theorem owner_of_set (reached : Reachable (inboundSystem wiring environment) world p)
    {before after : InboundTrace} {tid time : Nat} {hash : ShortHash} {value : JsValue}
    {ttl : Option Nat} {reply : Reply Unit}
    (split : p.snapshot.trace = before ++
      ⟨tid, time, .answered (.inl (.cache (.set (cacheKeyOf hash) value ttl))) reply⟩ :: after) :
    ∃ rawKey, ownerKey before tid = some rawKey ∧ wiring.textHash rawKey = hash ∧
      ttl = some DEFAULT_TTL := by
  rcases asked_of_command reached split with ⟨s, call, rfl, began, issued⟩ | ⟨call, began⟩
  · generalize key : cacheKeyOf hash = written at issued
    cases issued with
    | record rawKey adapter data keyed seen =>
        refine ⟨rawKey, ?_, (recordKey_injective key).symm, rfl⟩
        rw [ownerKey_of_saw reached split began]
        exact keyed
    | fill adapter data cachedAt ttl readOnly seen =>
        exact absurd key (recordKey_ne _ _ _)
  · obtain ⟨rawKey, stored, key, ttl⟩ := reached.lawful_call split began (inbound_lawful call)
    refine ⟨rawKey, ?_, (recordKey_injective key).symm, ttl⟩
    exact ownerKey_of_saw reached split (saw_of_own stored)

/-- Whoever claims a record is a claim. -/
theorem owner_of_claim (reached : Reachable (inboundSystem wiring environment) world p)
    {before after : InboundTrace} {tid time : Nat} {key : String} {value : JsValue}
    {ttl : Option Nat} {reply : Reply Bool}
    (split : p.snapshot.trace = before ++
      ⟨tid, time, .answered (.inl (.cache (.setIfNotExist key value ttl))) reply⟩ :: after) :
    ∃ rawKey, ownerKey before tid = some rawKey ∧ key = cacheKeyOf (wiring.textHash rawKey) ∧
      ttl = some DEFAULT_TTL := by
  rcases asked_of_command reached split with ⟨s, call, rfl, began, issued⟩ | ⟨call, began⟩
  · cases issued
  · obtain ⟨rawKey, claims, same, -, ttl⟩ := reached.lawful_call split began (inbound_lawful call)
    exact ⟨rawKey, ownerKey_of_saw reached split (saw_of_own claims), same, ttl⟩

end Runs

/-! ### Claims that tell the truth -/

/-- The entry is a claim that won, or a store that took effect, for the raw key. -/
def secures (wiring : Wiring) (rawKey : String) (trace : InboundTrace) (entry : InboundEntry) :
    Bool :=
  ownerKey trace entry.tid = some rawKey &&
    match entry.event with
    | .answered (.inl (.cache (.set key _ _))) reply =>
        reply.applied && key = cacheKeyOf (wiring.textHash rawKey)
    | .answered (.inl (.cache (.setIfNotExist key _ _))) (.ok won) =>
        won && key = cacheKeyOf (wiring.textHash rawKey)
    | _ => false

/-- When a task asked for its key, and what it was answered. -/
def claimReply (tid : Nat) (entry : InboundEntry) : Option (Nat × Reply Bool) :=
  match entry.event with
  | .answered (.inl (.cache (.setIfNotExist _ _ _))) reply =>
      if entry.tid = tid then some (entry.time, reply) else none
  | _ => none

/-- The command behind a claim failed. -/
def claimFailed (tid : Nat) (trace : InboundTrace) : Bool :=
  (trace.findSome? (claimReply tid)).any fun asked => !asked.2.isOk

/-- A claim drops its message only if the key was secured no longer than a day before, and
lets it pass when the store could not be asked. -/
def claimHonest (wiring : Wiring) (before : InboundTrace) (entry : InboundEntry) : Bool :=
  match entry.event with
  | .finished (.inr (.claim rawKey)) result =>
      let past := before.takeWhile fun earlier => (claimReply entry.tid earlier).isNone
      (before.findSome? (claimReply entry.tid)).all fun asked =>
        if asked.2.isOk then
          result ≠ .ok (.value (.bool false)) ||
            past.any fun earlier => secures wiring rawKey past earlier &&
              asked.1 ≤ earlier.time + DEFAULT_TTL * 1000
        else result = .ok (.value (.bool true))
  | _ => true

/-- A claim reached the store, and its reply was lost. -/
def claimLost (entry : InboundEntry) : Bool :=
  match entry.event with
  | .answered (.inl (.cache (.setIfNotExist _ _ _))) (.failed applied _) => applied
  | _ => false

section Claims

variable {wiring : Wiring} {environment : CacheEnvironment} {world : World inbound}
  {p : InboundPool}

theorem clear_of_kept {trace : InboundTrace} (kept : trace.any claimLost = false) :
    Clear trace := by
  intro entry member command answer event
  have intact := List.any_eq_false.mp kept entry member
  rw [claimLost, event] at intact
  cases command with
  | setIfNotExist key value ttl =>
      cases answer with
      | ok won => rfl
      | failed applied reason => exact Bool.eq_false_iff.mpr intact
  | _ => rfl

/-- Raw keys of one hash are one key. -/
theorem same_of_apart (apart : keysApart wiring p.snapshot.trace = true) {before after : InboundTrace}
    (part : p.snapshot.trace = before ++ after) {tid other : Nat} {rawKey otherKey : String}
    (one : ownerKey before tid = some rawKey) (second : ownerKey before other = some otherKey)
    (hashes : wiring.textHash rawKey = wiring.textHash otherKey) : rawKey = otherKey := by
  have named {tid : Nat} {rawKey : String} (owns : ownerKey before tid = some rawKey) :
      ∃ entry ∈ p.snapshot.trace, keyIn entry = some rawKey := by
    obtain ⟨entry, there, spoke⟩ := List.exists_of_findSome?_eq_some owns
    obtain ⟨-, said⟩ := Option.ite_none_right_eq_some.mp spoke
    refine ⟨entry, ?_, said⟩
    rw [part]
    exact List.mem_append_left after there
  obtain ⟨first, firstThere, firstKey⟩ := named one
  obtain ⟨last, lastThere, lastKey⟩ := named second
  have checked := List.all_eq_true.mp (List.all_eq_true.mp apart first firstThere) last lastThere
  simpa [firstKey, lastKey, hashes] using checked

/-- What is held under a record was left by somebody who was about its key. -/
theorem writer_of_held (fresh : Unrecorded wiring world)
    (reached : Reachable (inboundSystem wiring environment) world p) {before after : InboundTrace}
    (part : p.snapshot.trace = before ++ after) {hash : ShortHash} {left : CacheEntry}
    (there : held (inboundDeployment wiring environment) world.cache
      (getFullKey wiring.backend.options (cacheKeyOf hash)) before = some left) :
    ∃ early writer late command answer value rawKey, before = early ++ writer :: late ∧
      writer.event = .answered (.inl (.cache command)) answer ∧
      command.Wrote answer (cacheKeyOf hash) value (some DEFAULT_TTL) ∧
      left = wiring.backend.entryOf writer.time value (some DEFAULT_TTL) ∧
      ownerKey early writer.tid = some rawKey ∧ wiring.textHash rawKey = hash ∧
      ∀ later ∈ late, touchOf (inboundDeployment wiring environment)
        (getFullKey wiring.backend.options (cacheKeyOf hash)) later = none := by
  unfold held at there
  cases last : latest _ before with
  | none =>
    rw [last, Option.getD_none, fresh hash] at there
    cases there
  | some touch =>
    rw [last, Option.getD_some] at there
    subst there
    obtain ⟨early, writer, late, split, touched, silent⟩ := split_of_latest last
    have whole : p.snapshot.trace = early ++ writer :: (late ++ after) := by
      rw [part, split, List.append_assoc, List.cons_append]
    obtain ⟨tid, time, event⟩ := writer
    unfold touchOf at touched
    split at touched
    · rename_i command answer same
      cases same
      obtain ⟨key, value, ttl, wrote, sameKey, rfl⟩ := wrote_of_touch touched
      have same := getFullKey_injective _ sameKey
      subst same
      cases wrote with
      | set _ _ _ reply applied =>
          obtain ⟨rawKey, owns, hashes, rfl⟩ := owner_of_set reached whole
          exact ⟨early, _, late, _, _, value, rawKey, split, rfl, .set _ _ _ _ applied, rfl, owns,
            hashes, silent⟩
      | claimed =>
          obtain ⟨rawKey, owns, key, rfl⟩ := owner_of_claim reached whole
          exact ⟨early, _, late, _, _, value, rawKey, split, rfl, .claimed _ _ _, rfl, owns,
            (recordKey_injective key).symm, silent⟩
      | unclear => cases touched
    · cases touched

theorem claimReply_other {entry : InboundEntry} {tid : Nat} (other : entry.tid ≠ tid) :
    claimReply tid entry = none := by
  unfold claimReply
  split
  · exact if_neg other
  · rfl

/-- A claim that has ended asked once and resolves with what it was answered. -/
theorem claim_of_finished (reached : Reachable (inboundSystem wiring environment) world p)
    {before after : InboundTrace} {tid time : Nat} {rawKey : String}
    {result : Except Exn Resolution}
    (split : p.snapshot.trace =
      before ++ ⟨tid, time, .finished (.inr (.claim rawKey)) result⟩ :: after) :
    ∃ (early late : InboundTrace) (asked : Nat) (reply : Reply Bool),
      before = early ++ ⟨tid, asked, .answered (.inl (.cache
        (.setIfNotExist (cacheKeyOf (wiring.textHash rawKey)) (.str "claimed")
          (some DEFAULT_TTL)))) reply⟩ :: late ∧
      Saw early tid (.started (.inr (.claim rawKey))) ∧
      result = .ok (.value (.bool (reply.getD false))) ∧
      before.findSome? (claimReply tid) = some (asked, reply) ∧
      (before.takeWhile fun earlier => (claimReply tid earlier).isNone) = early := by
  obtain ⟨began, asked, reply, own, rfl⟩ :=
    reached.lawful_call split (reached.finished_began split) (inbound_lawful _)
  have pair : ownEntries tid before = [_] ++ _ :: [] := own
  obtain ⟨early, late, rfl, first, -⟩ := split_of_own pair
  have silent : ∀ entry ∈ early, claimReply tid entry = none := by
    intro entry member
    by_cases same : entry.tid = tid
    · have mine : entry ∈ ownEntries tid early := mem_ownEntries.mpr ⟨member, same⟩
      rw [first] at mine
      rw [List.mem_singleton.mp mine]
      rfl
    · exact claimReply_other same
  have heard : claimReply tid ⟨tid, asked, .answered (.inl (.cache
      (.setIfNotExist (buildCacheKey (inboundDeployment wiring environment) rawKey)
        (.str "claimed") (some DEFAULT_TTL)))) reply⟩ = some (asked, reply) := if_pos rfl
  refine ⟨early, late, asked, reply, rfl, ?_, rfl, ?_, ?_⟩
  · exact saw_of_own ⟨began, by rw [first]; exact List.mem_singleton.mpr rfl⟩
  · rw [List.findSome?_append, List.findSome?_eq_none_iff.mpr silent, Option.none_or,
      List.findSome?_cons, heard]
  · rw [List.takeWhile_append_of_pos, List.takeWhile_cons, heard]
    · simp
    · intro entry member
      rw [silent entry member]
      rfl

/-- What has not expired was written within the day. -/
theorem recent_of_alive {backend : Backend} {time now : Nat} {value : JsValue}
    (alive : (backend.entryOf time value (some DEFAULT_TTL)).expired now = false) :
    now ≤ time + DEFAULT_TTL * 1000 := by
  rw [Backend.expired_entryOf (by decide), decide_eq_false_iff_not] at alive
  exact Nat.le_of_not_lt alive

/-- What a claim loses to was secured for its key, and is not a day old. -/
theorem secured_of_lost (fresh : Unrecorded wiring world)
    (reached : Reachable (inboundSystem wiring environment) world p)
    (apart : keysApart wiring p.snapshot.trace = true)
    (kept : p.snapshot.trace.any claimLost = false) {before after : InboundTrace} {tid time : Nat}
    {rawKey : String} {value : JsValue} {ttl : Option Nat}
    (split : p.snapshot.trace = before ++ ⟨tid, time, .answered (.inl (.cache
      (.setIfNotExist (cacheKeyOf (wiring.textHash rawKey)) value ttl))) (.ok false)⟩ :: after)
    (own : ownerKey before tid = some rawKey) :
    ∃ earlier ∈ before, secures wiring rawKey before earlier = true ∧
      time ≤ earlier.time + DEFAULT_TTL * 1000 := by
  have clear : Clear before := by
    apply (clear_of_kept kept).earlier
    exact ⟨_, split.symm⟩
  obtain ⟨left, there, alive⟩ := (inbound_chronicle reached).registers.losses before _ after split
    (clear.unblurred _) rfl
  obtain ⟨early, writer, late, command, answer, value, otherKey, rfl, wrote, writes, rfl, owns,
    hashes, -⟩ := writer_of_held fresh reached split there
  have owner : ownerKey (early ++ writer :: late) writer.tid = some otherKey := by
    rw [ownerKey, List.findSome?_append, ← ownerKey, owns, Option.some_or]
  have same := same_of_apart apart split owner own hashes
  subst same
  refine ⟨writer, by simp, ?_, ?_⟩
  · rw [secures, owner, wrote]
    cases writes with
    | set _ _ _ reply applied => simp [applied]
    | claimed => simp
    | unclear key value ttl reason =>
        have intact := clear writer (by simp) _ _ wrote
        cases intact
  · exact recent_of_alive alive

end Claims

/-! ### A claim while Redis is down -/

abbrev InboundMove := Move (portSignature inbound) PortExternal

/-- Redis is configured.  The hashes are those of the one key and of the one operation that
the runs below use. -/
def inboundWiring : Wiring :=
  .configured true (fun _ => ⟨"da2f7f8d6171c4b3", by decide +kernel⟩)
    fun _ => ⟨"e16d0b65da6d40c9", by decide +kernel⟩

/-- Nothing is cached, and the port of payments is registered. -/
def inboundWorld : World inbound :=
  PortRegistry.registerAll ["payment"]
    (PortRegistry.bareWorld 1700000000000 .empty PortRegistry.apiEndpoints ())

/-- What is answered when everything is up. -/
def servesInbound : Answering (portSignature inbound)
  | world, .inl (.cache command) => inboundWiring.backend.reliable world.now world.cache command
  | _, .inl (.adapter _ _ _ _) => .ok (.obj [("status", .str "completed")])
  | _, .inl (.queueAdd _) => .ok none
  | _, .inr request => request.elim

def takesTurns (tid : Nat) (call : PortCall ⊕ InboundCall) (count : Nat) : List InboundMove :=
  .act (.call call) :: turns tid count

/-- A message is claimed, and claimed again an hour later. -/
def claimsTwice : List InboundMove :=
  takesTurns 0 (.inr (.claim "wamid.1")) 2 ++
    [.act (.external (.tick 3600000))] ++ takesTurns 1 (.inr (.claim "wamid.1")) 2

theorem unrecorded_inboundWorld : Unrecorded inboundWiring inboundWorld := fun _ => rfl

/-- The first claim of a message is sent while Redis cannot be reached. -/
def claimsUnreachable : List InboundMove :=
  takesTurns 0 (.inr (.claim "wamid.1")) 0 ++
    [.act (.answer 0 (.inl (.cache (.setIfNotExist
      (cacheKeyOf (inboundWiring.textHash "wamid.1")) (.str "claimed") (some DEFAULT_TTL))))
      (Reply.failed false "ECONNREFUSED")), .turn 0]

end SelfService
