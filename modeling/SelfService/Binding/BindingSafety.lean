/-
What the calls of the binding module ask for.

`BindingIssues` lists their requests once.  None of these calls changes the
memory by itself, so an invariant that survives the answers to these requests
survives the calls.
-/

import SelfService.Binding.BindingVerifiedGuard
import SelfService.Port.CacheHistory

namespace SelfService

open Data EventLoop BindingService BindingRateLimiter

inductive IsCeiling : Ceiling → Prop
  | userRef (userId customerRef : String) : IsCeiling (userRefCeiling userId customerRef)
  | customer (customerRef : String) : IsCeiling (customerCeiling customerRef)
  | userTotal (userId : String) : IsCeiling (userTotalCeiling userId)

/-! ### Keys -/

/-- The symbol behind `bind:` tells the families of keys apart. -/
def family (key : String) : Option Char := key.toList[5]?

theorem family_append (start rest : String) {symbol : Char}
    (begins : start.toList[5]? = some symbol) : family (start ++ rest) = some symbol := by
  rw [family, String.toList_append, List.getElem?_append_left]
  · exact begins
  · exact (List.getElem?_eq_some_iff.mp begins).1

theorem family_initKey (sessionId : String) : family (initKey sessionId) = some 'i' :=
  family_append "bind:init:" sessionId (by decide)

theorem IsCeiling.family_failKey {ceiling : Ceiling} (kind : IsCeiling ceiling) :
    family ceiling.failKey = some 'f' := by
  cases kind with
  | userRef userId customerRef =>
      change family ("bind:fail:user:" ++ userId ++ ":" ++ customerRef) = some 'f'
      rw [String.append_assoc, String.append_assoc]
      exact family_append _ _ (by decide)
  | customer customerRef => exact family_append "bind:fail:cust:" customerRef (by decide)
  | userTotal userId => exact family_append "bind:fail:user_total:" userId (by decide)

theorem IsCeiling.family_lockKey {ceiling : Ceiling} (kind : IsCeiling ceiling) :
    family ceiling.lockKey = some 'l' := by
  cases kind with
  | userRef userId customerRef =>
      change family ("bind:lock:user:" ++ userId ++ ":" ++ customerRef) = some 'l'
      rw [String.append_assoc, String.append_assoc]
      exact family_append _ _ (by decide)
  | customer customerRef => exact family_append "bind:lock:cust:" customerRef (by decide)
  | userTotal userId => exact family_append "bind:lock:user_total:" userId (by decide)

theorem ne_of_family {left right : String} {symbol other : Char}
    (first : family left = some symbol) (second : family right = some other)
    (different : symbol ≠ other) : left ≠ right := by
  rintro rfl
  exact different (Option.some.inj (first.symm.trans second))

/-! ### Requests -/

/-- What the limiter asks for. -/
inductive LimiterIssues : PortRequest ⊕ BindingRequest → Prop
  | check (ceiling : Ceiling) (kind : IsCeiling ceiling) :
      LimiterIssues (.inl (.cache (.get ceiling.lockKey)))
  | left (ceiling : Ceiling) (kind : IsCeiling ceiling) :
      LimiterIssues (.inl (.cache (.ttl ceiling.lockKey)))
  | read (ceiling : Ceiling) (kind : IsCeiling ceiling) :
      LimiterIssues (.inl (.cache (.get ceiling.failKey)))
  | count (ceiling : Ceiling) (kind : IsCeiling ceiling) (now : Nat) (entry : JsValue) :
      LimiterIssues (.inl (.cache (.set ceiling.failKey (bumped now ceiling.windowSec entry)
        (some ceiling.windowSec))))
  | lock (ceiling : Ceiling) (kind : IsCeiling ceiling) :
      LimiterIssues (.inl (.cache (.set ceiling.lockKey (.num 1) (some ceiling.lockSec))))
  | clear (ceiling : Ceiling) (kind : IsCeiling ceiling) :
      LimiterIssues (.inl (.cache (.delete ceiling.failKey)))

/-- What the guard and `GET /auth/me` ask for, and what a bind leaves for them. -/
inductive ReaderIssues : PortRequest ⊕ BindingRequest → Prop
  | bound (userId : String) : ReaderIssues (.inl (.cache (.get (bindKey userId))))
  | entry (userId customerRef : String) (encCustomerId : Option String) (verifiedAt : JsValue)
      (deviceInfo : Option String) :
      ReaderIssues (.inl (.cache (.set (bindKey userId)
        (bindingEntry encCustomerId customerRef verifiedAt deviceInfo)
        (some BINDING_CACHE_TTL_SEC))))
  | identity (userId : String) : ReaderIssues (.inr (.selectIdentity userId))
  | verified (userId : String) : ReaderIssues (.inr (.selectVerified userId))

/-- What goes to the database or the customer service. -/
inductive OutsideIssues : PortRequest ⊕ BindingRequest → Prop
  | sent (request : BindingRequest) : OutsideIssues (.inr request)

/-- What the module asks for: besides the limiter and the readers, the init results and
whatever goes to the database or the customer service. -/
inductive BindingIssues : PortRequest ⊕ BindingRequest → Prop
  | limiter (request : PortRequest ⊕ BindingRequest) (issued : LimiterIssues request) :
      BindingIssues request
  | retrieve (sessionId : String) : BindingIssues (.inl (.cache (.get (initKey sessionId))))
  | reader (request : PortRequest ⊕ BindingRequest) (issued : ReaderIssues request) :
      BindingIssues request
  | init (sessionId : String) (result : ResolveResult) :
      BindingIssues (.inl (.cache (.set (initKey sessionId) result.toJs (some INIT_TTL_SEC))))
  | consume (sessionId : String) : BindingIssues (.inl (.cache (.delete (initKey sessionId))))
  | database (request : BindingRequest) : BindingIssues (.inr request)

section Asks

variable {client : CustomerServiceClient}

/-- The task sends these requests only, and may leave any mark. -/
abbrev Binds {α : Type} (task : BindingTask client α) : Prop :=
  task.Asks BindingIssues fun _ => True

abbrev Limits {α : Type} (task : BindingTask client α) : Prop :=
  task.Asks LimiterIssues fun _ => True

abbrev Reads {α : Type} (task : BindingTask client α) : Prop :=
  task.Asks ReaderIssues fun _ => True

abbrev Consults {α : Type} (task : BindingTask client α) : Prop :=
  task.Asks OutsideIssues fun _ => True

section Commands

variable {requests : PortRequest ⊕ BindingRequest → Prop} {marks : PortMark ⊕ BindingMark → Prop}

theorem asks_get {key : String} (issued : requests (.inl (.cache (.get key)))) :
    (CacheService.get key : BindingTask client JsValue).Asks requests marks :=
  ⟨issued, fun _ => trivial⟩

theorem asks_ttlSec {key : String} (issued : requests (.inl (.cache (.ttl key)))) :
    (ttlSec key : BindingTask client Nat).Asks requests marks :=
  ⟨issued, fun _ => trivial⟩

theorem asks_set {key : String} {value : JsValue} {ttl : Option Nat}
    (issued : requests (.inl (.cache (.set key value ttl)))) :
    (CacheService.set key value ttl : BindingTask client Unit).Asks requests marks := by
  refine ⟨issued, ?_⟩
  intro answer
  cases answer with
  | ok done => exact trivial
  | failed applied reason => exact trivial

theorem asks_delete {key : String} (issued : requests (.inl (.cache (.delete key)))) :
    (CacheService.delete key : BindingTask client Unit).Asks requests marks :=
  ⟨issued, fun _ => trivial⟩

end Commands

theorem asks_ofReply {requests : PortRequest ⊕ BindingRequest → Prop}
    {marks : PortMark ⊕ BindingMark → Prop} {α : Type} (reply : Reply α) :
    (ofReply reply : BindingTask client α).Asks requests marks := by
  cases reply with
  | ok value => exact trivial
  | failed applied reason => exact trivial

theorem consults_resolve (phone : String) :
    Consults (CustomerServiceClient.resolve phone : BindingTask client ResolveResult) := by
  refine ⟨.sent _, ?_⟩
  intro outcome
  cases outcome with
  | ok value => exact trivial
  | error error => exact trivial

theorem consults_verify (request : VerifyRequest) :
    Consults (CustomerServiceClient.verify request : BindingTask client VerifyResult) := by
  refine ⟨.sent _, ?_⟩
  intro outcome
  cases outcome with
  | ok value => exact trivial
  | error error => exact trivial

theorem consults_profile (customerRef : String) :
    Consults (CustomerServiceClient.profile customerRef :
      BindingTask client CustomerProfileResponse) := by
  refine ⟨.sent _, ?_⟩
  intro outcome
  cases outcome with
  | ok value => exact trivial
  | error error => exact trivial

theorem consults_create (phone : String) (profile : CreateCustomerRequest) :
    Consults (CustomerServiceClient.create phone profile :
      BindingTask client CreateCustomerResult) := by
  refine ⟨.sent _, ?_⟩
  intro outcome
  cases outcome with
  | ok value => exact trivial
  | error error => exact trivial

theorem consults_writeAudit (entry : BindingAuditEntry) :
    Consults (writeAudit entry : BindingTask client Unit) := by
  apply Task.Asks.bind
  · exact Task.Asks.attempt ⟨.sent _, fun reply => asks_ofReply (reply : Reply Unit)⟩
  · exact fun _ => trivial

theorem consults_getSessionPhone (userId : String) :
    Consults (getSessionPhone userId : BindingTask client (Option String)) := by
  refine ⟨.sent _, ?_⟩
  intro answer
  cases answer with
  | ok phone => exact trivial
  | failed applied reason => exact trivial

theorem consults_upsertVerified (userId customerRef : String) (values : VerifiedValues)
    (rowId : String) :
    Consults (upsertVerified userId customerRef values rowId : BindingTask client Unit) := by
  refine ⟨.sent _, ?_⟩
  intro answer
  cases answer with
  | failed applied reason => exact trivial
  | ok found =>
      cases found with
      | none => exact ⟨.sent _, fun reply => asks_ofReply (reply : Reply Unit)⟩
      | some id => exact ⟨.sent _, fun reply => asks_ofReply (reply : Reply Unit)⟩

theorem Consults.binds {α : Type} {task : BindingTask client α} (consults : Consults task) :
    Binds task := by
  apply consults.weaken
  rintro _ ⟨request⟩
  exact .database request

/-! ### The limiter -/

theorem limits_bump {ceiling : Ceiling} (kind : IsCeiling ceiling) :
    Limits (bump ceiling.failKey ceiling.windowSec : BindingTask client JsValue) := by
  refine ⟨rfl, fun world => ⟨trivial, ?_⟩⟩
  apply (asks_get (.read ceiling kind)).bind
  intro entry
  exact (asks_set (.count ceiling kind world.now entry)).bind fun _ => trivial

theorem limits_strike {ceiling : Ceiling} (kind : IsCeiling ceiling) :
    Limits (strike ceiling : BindingTask client Bool) := by
  apply (limits_bump kind).bind
  intro count
  simp only
  split
  · apply (asks_set (.lock ceiling kind)).bind
    intro _
    exact (asks_delete (.clear ceiling kind)).bind fun _ => trivial
  · exact trivial

theorem limits_recordFailure (userId customerRef : String) :
    Limits (recordFailure userId customerRef : BindingTask client FailureOutcome) := by
  apply (limits_strike (.userRef userId customerRef)).bind
  intro _
  apply (limits_strike (.customer customerRef)).bind
  intro _
  exact (limits_strike (.userTotal userId)).bind fun _ => trivial

theorem limits_checkLock {ceiling : Ceiling} (kind : IsCeiling ceiling) (reason : LockReason)
    {otherwise : BindingTask client LockState} (next : Limits otherwise) :
    Limits (checkLock ceiling.lockKey reason otherwise) := by
  apply (asks_get (.check ceiling kind)).bind
  intro entry
  simp only
  split
  · exact (asks_ttlSec (.left ceiling kind)).bind fun _ => trivial
  · exact next

theorem limits_checkLocked (userId customerRef : String) :
    Limits (checkLocked userId customerRef : BindingTask client LockState) :=
  limits_checkLock (.userTotal userId) _ (limits_checkLock (.userRef userId customerRef) _
    (limits_checkLock (.customer customerRef) _ trivial))

theorem limits_clearFailures (userId customerRef : String) :
    Limits (clearFailures userId customerRef : BindingTask client Unit) := by
  apply (asks_delete (.clear _ (.userRef userId customerRef))).bind
  exact fun _ => asks_delete (.clear _ (.userTotal userId))

theorem Limits.binds {α : Type} {task : BindingTask client α} (limits : Limits task) :
    Binds task :=
  limits.weaken BindingIssues.limiter

/-! ### The readers -/

variable {aes : AesGcm}

theorem reads_warm (userId customerRef : String) (values : VerifiedValues) :
    Reads (warm userId customerRef values : BindingTask client Unit) := by
  apply Task.Asks.bind
  · exact (asks_set (.entry userId customerRef _ _ _)).attempt
  · exact fun _ => trivial

theorem reads_selectVerified (userId : String) :
    Reads (selectVerified userId : BindingTask client (Option CustomerBinding)) :=
  ⟨.verified userId, fun reply => asks_ofReply (reply : Reply (Option CustomerBinding))⟩

theorem reads_resolveBinding (userId : String) :
    Reads (BindingVerifiedGuard.resolveBinding userId : BindingTask client JsValue) := by
  apply (asks_get (.bound userId)).bind
  intro cached
  simp only
  split
  · exact trivial
  · apply (reads_selectVerified userId).bind
    intro row
    cases row with
    | none => exact trivial
    | some row => exact (asks_set (.entry userId _ _ _ _)).attempt.bind fun _ => trivial

theorem reads_canActivate (userId : Option String) (skip : Bool) :
    Reads (BindingVerifiedGuard.canActivate aes userId skip :
      BindingTask client (Option JsValue)) := by
  unfold BindingVerifiedGuard.canActivate
  split
  · exact trivial
  · split
    · exact trivial
    · apply (reads_resolveBinding _).bind
      intro entry
      simp only
      split
      · split
        · exact trivial
        · split
          · exact trivial
          · exact trivial
      · exact trivial

theorem reads_getMe (userId : String) :
    Reads (AuthController.getMe aes userId : BindingTask client JsValue) := by
  refine ⟨.identity userId, ?_⟩
  intro user
  cases user with
  | failed applied reason => exact trivial
  | ok user =>
      apply (reads_selectVerified userId).bind
      intro row
      simp only
      split
      · exact trivial
      · exact trivial

theorem Reads.binds {α : Type} {task : BindingTask client α} (reads : Reads task) : Binds task :=
  reads.weaken BindingIssues.reader

/-! ### The calls -/

theorem binds_bindInit (userId sessionId : String) (deviceInfo ip : Option String) :
    Binds (bindInit userId sessionId deviceInfo ip : BindingTask client ResolveResult) := by
  apply (consults_getSessionPhone userId).binds.bind
  intro phone
  cases phone with
  | none => exact trivial
  | some phone =>
      apply (consults_resolve phone).binds.bind
      intro result
      apply (consults_writeAudit _).binds.bind
      intro _
      exact (asks_set (.init sessionId result)).bind fun _ => trivial

theorem binds_refuse (userId : String) (body : BindBody) (deviceInfo ip : Option String) :
    Binds (refuse userId body deviceInfo ip : BindingTask client BindResult) := by
  apply (limits_recordFailure _ _).binds.bind
  intro fail
  simp only
  split
  · exact (consults_writeAudit _).binds.bind fun _ => trivial
  · exact (consults_writeAudit _).binds.bind fun _ => trivial

theorem binds_complete (userId sessionId : String) (body : BindBody)
    (deviceInfo ip : Option String) (draws : Draws) :
    Binds (complete aes userId sessionId body deviceInfo ip draws :
      BindingTask client BindResult) := by
  apply (consults_profile _).binds.bind
  intro profile
  refine ⟨rfl, fun world => ?_⟩
  apply (consults_upsertVerified _ _ _ _).binds.bind
  intro _
  apply (limits_clearFailures _ _).binds.bind
  intro _
  apply (asks_delete (.consume sessionId)).bind
  intro _
  apply (consults_writeAudit _).binds.bind
  intro _
  exact (reads_warm _ _ _).binds.bind fun _ => trivial

theorem binds_challenge (userId sessionId : String) (body : BindBody)
    (deviceInfo ip : Option String) (draws : Draws) :
    Binds (challenge aes userId sessionId body deviceInfo ip draws :
      BindingTask client BindResult) := by
  apply (limits_checkLocked _ _).binds.bind
  intro lock
  simp only
  split
  · exact (consults_writeAudit _).binds.bind fun _ => trivial
  · apply (consults_verify _).binds.bind
    intro verdict
    simp only
    split
    · exact binds_complete _ _ _ _ _ _
    · exact binds_refuse _ _ _ _

theorem binds_bind (userId sessionId : String) (body : BindBody)
    (deviceInfo ip : Option String) (draws : Draws) :
    Binds (bind aes userId sessionId body deviceInfo ip draws :
      BindingTask client BindResult) := by
  apply (asks_get (.retrieve sessionId)).bind
  intro init
  simp only
  split
  · split
    · exact trivial
    · split
      · exact binds_challenge _ _ _ _ _ _
      · exact (consults_writeAudit _).binds.bind fun _ => trivial
  · exact (consults_writeAudit _).binds.bind fun _ => trivial

theorem binds_register (userId sessionId : String) (created : CreateCustomerResult)
    (deviceInfo ip : Option String) (draws : Draws) :
    Binds (register aes userId sessionId created deviceInfo ip draws :
      BindingTask client BindResult) := by
  refine ⟨rfl, fun world => ?_⟩
  apply (consults_upsertVerified _ _ _ _).binds.bind
  intro _
  apply (asks_delete (.consume sessionId)).bind
  intro _
  apply (consults_writeAudit _).binds.bind
  intro _
  exact (reads_warm _ _ _).binds.bind fun _ => trivial

theorem binds_bindRegister (userId sessionId : String) (profile : CreateCustomerRequest)
    (deviceInfo ip : Option String) (draws : Draws) :
    Binds (bindRegister aes userId sessionId profile deviceInfo ip draws :
      BindingTask client BindResult) := by
  apply (consults_getSessionPhone userId).binds.bind
  intro phone
  cases phone with
  | none => exact trivial
  | some phone =>
      apply (consults_resolve phone).binds.bind
      intro resolved
      simp only
      split
      · apply (consults_create phone profile).binds.attempt.bind
        intro outcome
        simp only
        split
        · exact binds_register _ _ _ _ _ _
        · exact (consults_writeAudit _).binds.bind fun _ => trivial
        · exact trivial
      · exact (consults_writeAudit _).binds.bind fun _ => trivial

theorem binds_body (call : BindingCall) :
    Binds (bindingBody aes call : BindingTask client Resolution) := by
  cases call with
  | bindInit userId sessionId deviceInfo ip =>
      exact (binds_bindInit _ _ _ _).bind fun _ => trivial
  | bind userId sessionId body deviceInfo ip draws =>
      exact (binds_bind _ _ _ _ _ _).bind fun _ => trivial
  | bindRegister userId sessionId profile deviceInfo ip draws =>
      exact (binds_bindRegister _ _ _ _ _ _).bind fun _ => trivial
  | guard userId skip => exact (reads_canActivate _ _).binds.bind fun _ => trivial
  | getMe userId => exact (reads_getMe _).binds.bind fun _ => trivial

end Asks

/-! ### Runs -/

abbrev BindingSnapshot (client : CustomerServiceClient) := PortSnapshot (binding client)

abbrev BindingEvent (client : CustomerServiceClient) := PortEvent (binding client)

abbrev BindingTrace (client : CustomerServiceClient) := PortTrace (binding client)

abbrev BindingTraceEntry (client : CustomerServiceClient) := PortTraceEntry (binding client)

abbrev BindingPool (client : CustomerServiceClient) :=
  Pool (portSignature (binding client)) Resolution

/-- No key of the binding module is a key of the registry. -/
theorem foreign_bind {client : CustomerServiceClient} (d : Deployment (binding client))
    (rest : String) : Foreign d ("bind:" ++ rest) := by
  have begins : ("bind:" ++ rest).toList = 'b' :: ("ind:".toList ++ rest.toList) := by
    rw [String.toList_append]
    rfl
  exact foreign_of_head begins (by decide) (by decide) (by decide)

section Runs

variable {client : CustomerServiceClient} {aes : AesGcm} {wiring : Wiring}
  {environment : CacheEnvironment} {world : BindingWorld client} {p : BindingPool client}

theorem binding_of_steps {Inv : BindingSnapshot client → Prop}
    (steps : ∀ s later, ProcessStep (bindingDeployment client wiring environment)
      (bindingService client aes) BindingIssues (fun _ => True) s later → Inv s → Inv later)
    (hold : Inv ⟨world, []⟩)
    (reached : Reachable (bindingSystem client aes wiring environment) world p) :
    Inv p.snapshot :=
  reachable_of_steps rfl binds_body steps hold reached

theorem binding_chronicle
    (reached : Reachable (bindingSystem client aes wiring environment) world p) :
    Chronicle (bindingDeployment client wiring environment) BindingIssues world.cache p.snapshot :=
  chronicle_reachable rfl binds_body reached

theorem binding_unclaimed (key : String) (value : JsValue) (ttl : Option Nat) :
    ¬ BindingIssues (.inl (.cache (.setIfNotExist key value ttl))) := by
  intro issued
  cases issued with
  | limiter _ issued => cases issued
  | reader _ issued => cases issued

theorem binding_clear
    (reached : Reachable (bindingSystem client aes wiring environment) world p) :
    Clear p.snapshot.trace :=
  clear_reachable rfl binds_body binding_unclaimed reached

/-- A law of the calls of the module holds of their entries. -/
theorem binding_lawful {law : Law (portSignature (binding client)) Resolution}
    (lawful : ∀ tid call,
      Lawful (bindingSystem client aes wiring environment) law tid (.inr call))
    (reached : Reachable (bindingSystem client aes wiring environment) world p)
    {before after : BindingTrace client} {entry : BindingTraceEntry client}
    (split : p.snapshot.trace = before ++ entry :: after)
    (began : ∃ call, Saw before entry.tid (.started (.inr call))) :
    law (ownEntries entry.tid before) entry := by
  obtain ⟨call, began⟩ := began
  exact reached.lawful_call split began (lawful entry.tid call)

/-- What leaves an entry under a key of the module is a write of one of its calls. -/
theorem write_of_touch
    (reached : Reachable (bindingSystem client aes wiring environment) world p)
    {before after : BindingTrace client} {entry : BindingTraceEntry client}
    (split : p.snapshot.trace = before ++ entry :: after) {rest : String} {left : CacheEntry}
    (touched : touchOf (bindingDeployment client wiring environment)
      (getFullKey wiring.backend.options ("bind:" ++ rest)) entry = some (some left)) :
    ∃ (value : JsValue) (ttl : Option Nat) (reply : Reply Unit),
      entry = ⟨entry.tid, entry.time,
        .answered (.inl (.cache (.set ("bind:" ++ rest) value ttl))) reply⟩ ∧
      reply.applied = true ∧ left = wiring.backend.entryOf entry.time value ttl ∧
      BindingIssues (.inl (.cache (.set ("bind:" ++ rest) value ttl))) ∧
      ∃ call, Saw before entry.tid (.started (.inr call)) := by
  obtain ⟨tid, time, event⟩ := entry
  have owner := (binding_chronicle reached).owned.owners before _ after split
  unfold touchOf at touched
  split at touched
  · rename_i command answer same
    cases same
    obtain ⟨key, value, ttl, wrote, sameKey, rfl⟩ := wrote_of_touch touched
    have same := getFullKey_injective _ sameKey
    subst same
    obtain ⟨issued, began⟩ := owner _ (foreign_bind _ rest)
      (ne_of_eq_of_ne touched (Option.some_ne_none _))
    cases wrote with
    | set _ _ _ reply applied => exact ⟨value, ttl, reply, rfl, applied, rfl, issued, began⟩
    | claimed => exact absurd issued (binding_unclaimed _ _ _)
    | unclear => cases touched
  · cases touched

/-- What is held under a key of the module was there at the start, or a call of the module
wrote it. -/
theorem binding_wrote
    (reached : Reachable (bindingSystem client aes wiring environment) world p)
    {trace later : BindingTrace client} (part : p.snapshot.trace = trace ++ later) {rest : String}
    {left : CacheEntry}
    (there : held (bindingDeployment client wiring environment) world.cache
      (getFullKey wiring.backend.options ("bind:" ++ rest)) trace = some left) :
    world.cache.get? (getFullKey wiring.backend.options ("bind:" ++ rest)) = some left ∨
      ∃ (before after : BindingTrace client) (tid time : Nat) (value : JsValue)
        (ttl : Option Nat) (reply : Reply Unit), trace = before ++
          ⟨tid, time, .answered (.inl (.cache (.set ("bind:" ++ rest) value ttl))) reply⟩ :: after ∧
        reply.applied = true ∧ left = wiring.backend.entryOf time value ttl ∧
        BindingIssues (.inl (.cache (.set ("bind:" ++ rest) value ttl))) ∧
        ∃ call, Saw before tid (.started (.inr call)) := by
  rcases left_of_held there with old | ⟨entry, member, touched⟩
  · exact Or.inl old
  · right
    obtain ⟨before, after, rfl⟩ := List.append_of_mem member
    have split : p.snapshot.trace = before ++ entry :: (after ++ later) := by
      rw [part, List.append_assoc, List.cons_append]
    obtain ⟨value, ttl, reply, wrote, applied, same, issued, began⟩ :=
      write_of_touch reached split touched
    exact ⟨before, after, entry.tid, entry.time, value, ttl, reply, by rw [← wrote], applied, same,
      issued, began⟩

end Runs

end SelfService
