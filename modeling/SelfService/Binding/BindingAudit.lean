/-
The audit trail of the binding mutations.

A call that gets as far as its end leaves one row.  A step that rejects ends the
call before its row is written, and there is nothing that would write one then.
-/

import SelfService.Binding.BindingTables
import SelfService.Binding.MockCustomerServiceClient
import SelfService.EventLoop.Observer

namespace SelfService

open Data EventLoop BindingService BindingRateLimiter

variable {client : CustomerServiceClient}

/-- What one call did: the rows it left, whether every insert of a row succeeded, whether a
binding was written, whether a step rejected, and whether the session had a phone. -/
structure Attempt where
  rows : List BindingAuditEntry
  kept : Bool
  wrote : Bool
  rejected : Bool
  phoned : Bool

def Attempt.nothing : Attempt := ⟨[], true, false, false, false⟩

/-- Counters and locks are written by the limiter, whose failures are not caught. -/
def ofLimiter (value : JsValue) : Bool := value = .num 1 || value.field "since" ≠ .undefined

/-- A step whose rejection ends the call. -/
def rejects (sessionId : String) : BindingEvent client → Bool
  | .answered (.inr (.client (.create _ _))) (.error (.base .conflict _ _ _)) => false
  | .answered (.inr (.client (.resolve _))) (.error _) => true
  | .answered (.inr (.client (.verify _))) (.error _) => true
  | .answered (.inr (.client (.profile _))) (.error _) => true
  | .answered (.inr (.client (.create _ _))) (.error _) => true
  | .answered (.inr (.selectBinding _ _)) (.failed _ _) => true
  | .answered (.inr (.updateBinding _ _)) (.failed _ _) => true
  | .answered (.inr (.insertBinding _ _ _ _)) (.failed _ _) => true
  | .answered (.inl (.cache (.set _ value _))) (.failed _ _) => ofLimiter value
  | .answered (.inl (.cache (.get key))) (.ok init) =>
      key = initKey sessionId && init.truthy && !(allowedRefs init).toBool
  | _ => false

/-- A call of `bind` has no phone to check. -/
def watch (sessionId : String) (seen : Attempt) (event : BindingEvent client) : Attempt :=
  match event with
  | .started (.inr (.bind _ _ _ _ _ _)) => { seen with phoned := true }
  | .answered (.inr (.selectPhone _)) (.ok phone) =>
      { seen with phoned := (phone.filter fun text => text ≠ "").isSome }
  | .answered (.inr (.insertAudit entry)) (.ok _) => { seen with rows := seen.rows ++ [entry] }
  | .answered (.inr (.insertAudit _)) (.failed _ _) => { seen with kept := false }
  | .answered (.inr request) answer =>
      { seen with
        wrote := seen.wrote || (request.written answer).isSome
        rejected := seen.rejected || rejects sessionId event }
  | _ => { seen with rejected := seen.rejected || rejects sessionId event }

/-- One row, which speaks of a success exactly when a binding was written. -/
def Attempt.auditedOnce (seen : Attempt) : Bool :=
  match seen.rows with
  | [row] => row.success = seen.wrote
  | _ => false

/-- A call whose rows were kept and which had a phone leaves its one row exactly when no
step rejected. -/
def Attempt.Complete (seen : Attempt) : Prop :=
  seen.kept = true → seen.phoned = true → (seen.auditedOnce = true ↔ seen.rejected = false)

/-! ### Steps -/

/-- Nothing rejected so far, and no row is left. -/
structure Attempt.Open (seen : Attempt) (wrote : Bool) : Prop where
  rows : seen.rows = []
  wrote : seen.wrote = wrote
  rejected : seen.rejected = false

/-- A rejection before any row: the call ends without one. -/
theorem complete_of_rejected {seen : Attempt} (rows : seen.rows = [])
    (rejected : seen.rejected = true) : seen.Complete := by
  intro _ _
  simp [Attempt.auditedOnce, rows, rejected]

theorem complete_of_row {seen : Attempt} {row : BindingAuditEntry} (rows : seen.rows = [row])
    (told : row.success = seen.wrote) (spared : seen.rejected = false) : seen.Complete := by
  intro _ _
  simp [Attempt.auditedOnce, rows, told, spared]

section Walk

variable {sessionId : String} {aes : AesGcm} {α β : Type}

/-- From here on the task ends as a complete attempt. -/
abbrev Completes (sessionId : String) (task : BindingTask client α) (seen : Attempt) : Prop :=
  Observed (watch sessionId) (fun _ last => last.Complete) task seen

section Events

attribute [local simp] watch rejects

/-- The row is the last thing that matters. -/
theorem completes_writeAudit {seen : Attempt} {entry : BindingAuditEntry} {wrote : Bool}
    {rest : Unit → BindingTask client β} (begun : seen.Open wrote) (told : entry.success = wrote)
    (next : ∀ last : Attempt, last.Complete → Completes sessionId (rest ()) last) :
    Completes sessionId (writeAudit entry >>= rest) seen := by
  intro reply
  cases reply with
  | ok done =>
      apply next
      have rows : seen.rows ++ [entry] = [entry] := by rw [begun.rows, List.nil_append]
      exact complete_of_row rows (told.trans begun.wrote.symm) begun.rejected
  | failed applied reason =>
      apply next
      intro kept
      cases kept

theorem ofLimiter_bindingEntry (encCustomerId : Option String) (customerRef : String)
    (verifiedAt : JsValue) (deviceInfo : Option String) :
    ofLimiter (bindingEntry encCustomerId customerRef verifiedAt deviceInfo) = false := by
  simp [ofLimiter, bindingEntry, List.lookup_cons]

theorem watch_warm {seen : Attempt} {key customerRef : String} {encCustomerId : Option String}
    {verifiedAt : JsValue} {deviceInfo : Option String} {ttl : Option Nat} {reply : Reply Unit} :
    watch sessionId seen (.answered (.inl (.cache (.set key
      (bindingEntry encCustomerId customerRef verifiedAt deviceInfo) ttl))) reply :
        BindingEvent client) = seen := by
  cases reply with
  | ok done => simp
  | failed applied reason => simp [ofLimiter_bindingEntry]

theorem completes_warm {seen : Attempt} {userId customerRef : String} {values : VerifiedValues}
    {rest : Unit → BindingTask client β} (closed : seen.Complete)
    (next : ∀ last : Attempt, last.Complete → Completes sessionId (rest ()) last) :
    Completes sessionId (warm userId customerRef values >>= rest) seen := by
  intro reply
  change Observed _ _ _ (watch sessionId seen (.answered (.inl (.cache (.set (bindKey userId)
    (bindingEntry values.encCustomerId customerRef (.date values.now) values.deviceInfo)
    (some BINDING_CACHE_TTL_SEC)))) reply))
  rw [watch_warm]
  cases reply with
  | ok done => exact next seen closed
  | failed applied reason => exact next seen closed

theorem completes_get {seen : Attempt} {key : String} {rest : JsValue → BindingTask client β}
    (other : key ≠ initKey sessionId) (next : ∀ value, Completes sessionId (rest value) seen) :
    Completes sessionId (CacheService.get key >>= rest) seen := by
  apply observed_get
  intro reply
  have same : watch sessionId seen
      (.answered (.inl (.cache (.get key))) reply : BindingEvent client) = seen := by
    cases reply with
    | ok init => simp [other]
    | failed applied reason => simp
  rw [same]
  exact next _

theorem completes_delete {seen : Attempt} {key : String} {rest : Unit → BindingTask client β}
    (next : Completes sessionId (rest ()) seen) :
    Completes sessionId (CacheService.delete key >>= rest) seen := by
  apply observed_delete
  intro reply
  have same : watch sessionId seen
      (.answered (.inl (.cache (.delete key))) reply : BindingEvent client) = seen := by
    simp
  rw [same]
  exact next

theorem completes_ttlSec {seen : Attempt} {key : String} {rest : Nat → BindingTask client β}
    (next : ∀ seconds, Completes sessionId (rest seconds) seen) :
    Completes sessionId (ttlSec key >>= rest) seen := by
  intro reply
  have same : watch sessionId seen
      (.answered (.inl (.cache (.ttl key))) reply : BindingEvent client) = seen := by
    simp
  change Observed _ _ _ (watch sessionId seen (.answered (.inl (.cache (.ttl key))) reply))
  rw [same]
  exact next _

/-! ### The limiter -/

theorem ofLimiter_bumped (now windowSec : Nat) (entry : JsValue) :
    ofLimiter (bumped now windowSec entry) = true := by
  unfold bumped
  split
  · rename_i runs
    unfold running at runs
    split at runs
    · rename_i since same
      simp [ofLimiter, counter, List.lookup_cons, same]
    · cases runs
  · simp [ofLimiter, counter, List.lookup_cons]

theorem completes_setLimiter {seen : Attempt} {key : String} {value : JsValue} {ttl : Option Nat}
    {rest : Unit → BindingTask client β} (limits : ofLimiter value = true) (rows : seen.rows = [])
    (next : Completes sessionId (rest ()) seen) :
    Completes sessionId (CacheService.set key value ttl >>= rest) seen := by
  apply observed_set
  · have same : watch sessionId seen (.answered (.inl (.cache (.set key value ttl)))
        (Reply.ok ()) : BindingEvent client) = seen := by
      simp
    rw [same]
    exact next
  · intro applied reason
    apply complete_of_rejected
    · exact rows
    · simp [limits]

theorem completes_strike {seen : Attempt} {ceiling : Ceiling}
    {rest : Bool → BindingTask client β} (other : ceiling.failKey ≠ initKey sessionId)
    (rows : seen.rows = []) (next : ∀ armed, Completes sessionId (rest armed) seen) :
    Completes sessionId (strike ceiling >>= rest) seen := by
  unfold strike bump
  simp only [bind_assoc]
  intro world
  have marked : watch sessionId seen
      (.marked (.inr (.counts ceiling.failKey)) : BindingEvent client) = seen := by
    simp
  apply completes_get other
  intro entry
  rw [marked]
  apply completes_setLimiter (ofLimiter_bumped _ _ _) rows
  change Completes sessionId ((if _ then _ else _) >>= rest) seen
  split
  · simp only [bind_assoc]
    apply completes_setLimiter rfl rows
    apply completes_delete
    exact next true
  · exact next false

theorem IsCeiling.failKey_ne_initKey {ceiling : Ceiling} (kind : IsCeiling ceiling) :
    ceiling.failKey ≠ initKey sessionId :=
  ne_of_family kind.family_failKey (family_initKey sessionId) (by decide)

theorem IsCeiling.lockKey_ne_initKey {ceiling : Ceiling} (kind : IsCeiling ceiling) :
    ceiling.lockKey ≠ initKey sessionId :=
  ne_of_family kind.family_lockKey (family_initKey sessionId) (by decide)

theorem completes_recordFailure {seen : Attempt} {userId customerRef : String}
    {rest : FailureOutcome → BindingTask client β} (rows : seen.rows = [])
    (next : ∀ outcome, Completes sessionId (rest outcome) seen) :
    Completes sessionId (recordFailure userId customerRef >>= rest) seen := by
  unfold recordFailure
  simp only [bind_assoc]
  apply completes_strike (IsCeiling.userRef userId customerRef).failKey_ne_initKey rows
  intro userRefArmed
  apply completes_strike (IsCeiling.customer customerRef).failKey_ne_initKey rows
  intro customerArmed
  apply completes_strike (IsCeiling.userTotal userId).failKey_ne_initKey rows
  intro sessionArmed
  exact next _

theorem completes_checkLock {seen : Attempt} {ceiling : Ceiling} (kind : IsCeiling ceiling)
    {reason : LockReason} {otherwise : BindingTask client LockState}
    {rest : LockState → BindingTask client β}
    (locked : ∀ lock, Completes sessionId (rest lock) seen)
    (unlocked : Completes sessionId (otherwise >>= rest) seen) :
    Completes sessionId (checkLock ceiling.lockKey reason otherwise >>= rest) seen := by
  unfold checkLock
  simp only [bind_assoc]
  apply completes_get kind.lockKey_ne_initKey
  intro entry
  split
  · simp only [bind_assoc]
    apply completes_ttlSec
    exact fun seconds => locked _
  · exact unlocked

theorem completes_checkLocked {seen : Attempt} {userId customerRef : String}
    {rest : LockState → BindingTask client β}
    (next : ∀ lock, Completes sessionId (rest lock) seen) :
    Completes sessionId (checkLocked userId customerRef >>= rest) seen := by
  apply completes_checkLock (.userTotal userId) next
  apply completes_checkLock (.userRef userId customerRef) next
  apply completes_checkLock (.customer customerRef) next
  exact next _

theorem completes_clearFailures {seen : Attempt} {userId customerRef : String}
    {rest : Unit → BindingTask client β} (next : Completes sessionId (rest ()) seen) :
    Completes sessionId (clearFailures userId customerRef >>= rest) seen := by
  unfold clearFailures
  simp only [bind_assoc]
  apply completes_delete
  apply completes_delete
  exact next

/-! ### The binding row -/

theorem completes_upsertVerified {seen : Attempt} {userId customerRef rowId : String}
    {values : VerifiedValues} {rest : Unit → BindingTask client β} (begun : seen.Open false)
    (next : ∀ last : Attempt, last.Open true → Completes sessionId (rest ()) last) :
    Completes sessionId (upsertVerified userId customerRef values rowId >>= rest) seen := by
  intro answer
  cases answer with
  | failed applied reason =>
      apply complete_of_rejected
      · exact begun.rows
      · simp
  | ok found =>
      cases found with
      | none =>
          intro reply
          cases reply with
          | ok done =>
              apply next
              constructor
              · exact begun.rows
              · simp [BindingRequest.written, Reply.applied]
              · simp [begun.rejected]
          | failed applied reason =>
              apply complete_of_rejected
              · exact begun.rows
              · simp
      | some id =>
          intro reply
          cases reply with
          | ok done =>
              apply next
              constructor
              · exact begun.rows
              · simp [BindingRequest.written, Reply.applied]
              · simp [begun.rejected]
          | failed applied reason =>
              apply complete_of_rejected
              · exact begun.rows
              · simp

end Events

/-! ### The calls -/

theorem Attempt.Open.served {seen : Attempt} {wrote : Bool} (begun : seen.Open wrote)
    {request : ClientRequest} {answer : request.Answer}
    (spared : rejects sessionId (.answered (.inr (.client request)) answer : BindingEvent client) =
      false) :
    (watch sessionId seen
      (.answered (.inr (.client request)) answer : BindingEvent client)).Open wrote := by
  constructor
  · exact begun.rows
  · simp [watch, BindingRequest.written, begun.wrote]
  · simp [watch, spared, begun.rejected]

theorem complete_of_refused {seen : Attempt} (rows : seen.rows = []) {request : ClientRequest}
    {answer : request.Answer}
    (refused : rejects sessionId (.answered (.inr (.client request)) answer : BindingEvent client) =
      true) :
    (watch sessionId seen
      (.answered (.inr (.client request)) answer : BindingEvent client)).Complete := by
  apply complete_of_rejected
  · exact rows
  · simp [watch, refused]

theorem completes_complete {seen : Attempt} {userId : String} {body : BindBody}
    {deviceInfo ip : Option String} {draws : Draws} (begun : seen.Open false) :
    Completes sessionId (complete aes userId sessionId body deviceInfo ip draws :
      BindingTask client BindResult) seen := by
  intro outcome
  cases outcome with
  | error error => exact complete_of_refused begun.rows rfl
  | ok profile =>
      intro world
      apply completes_upsertVerified (begun.served rfl)
      intro last written
      apply completes_clearFailures
      apply completes_delete
      apply completes_writeAudit written rfl
      intro last closed
      apply completes_warm closed
      exact fun last closed => closed

theorem completes_refuse {seen : Attempt} {userId : String} {body : BindBody}
    {deviceInfo ip : Option String} (begun : seen.Open false) :
    Completes sessionId (refuse userId body deviceInfo ip : BindingTask client BindResult) seen := by
  apply completes_recordFailure begun.rows
  intro fail
  simp only
  split
  · apply completes_writeAudit begun rfl
    exact fun last closed => closed
  · apply completes_writeAudit begun rfl
    exact fun last closed => closed

theorem completes_challenge {seen : Attempt} {userId : String} {body : BindBody}
    {deviceInfo ip : Option String} {draws : Draws} (begun : seen.Open false) :
    Completes sessionId (challenge aes userId sessionId body deviceInfo ip draws :
      BindingTask client BindResult) seen := by
  apply completes_checkLocked
  intro lock
  simp only
  split
  · apply completes_writeAudit begun rfl
    exact fun last closed => closed
  · intro outcome
    cases outcome with
    | error error => exact complete_of_refused begun.rows rfl
    | ok verdict =>
        change Completes sessionId (if verdict.verified = true then _ else _) _
        split
        · exact completes_complete (begun.served rfl)
        · exact completes_refuse (begun.served rfl)

theorem completes_bind {seen : Attempt} {userId : String} {body : BindBody}
    {deviceInfo ip : Option String} {draws : Draws} (begun : seen.Open false) :
    Completes sessionId (bind aes userId sessionId body deviceInfo ip draws :
      BindingTask client BindResult) seen := by
  apply observed_get
  intro reply
  cases reply with
  | failed applied reason =>
      apply completes_writeAudit _ rfl
      · exact fun last closed => closed
      · exact ⟨begun.rows, begun.wrote, by simp [watch, rejects, begun.rejected]⟩
  | ok init =>
      change Completes sessionId (if init.truthy = true then _ else _) _
      split
      · rename_i present
        split
        · rename_i error unreadable
          have thrown : allowedRefs init = .error error := unreadable
          apply complete_of_rejected
          · exact begun.rows
          · simp [watch, rejects, present, thrown, Except.toBool]
        · rename_i refs readable
          have still : (watch sessionId seen (.answered (.inl (.cache (.get (initKey sessionId))))
              (.ok init) : BindingEvent client)).Open false := by
            have read : allowedRefs init = .ok refs := readable
            refine ⟨begun.rows, begun.wrote, ?_⟩
            simp [watch, rejects, begun.rejected, read, Except.toBool]
          split
          · exact completes_challenge still
          · apply completes_writeAudit still rfl
            exact fun last closed => closed
      · rename_i absent
        apply completes_writeAudit _ rfl
        · exact fun last closed => closed
        · exact ⟨begun.rows, begun.wrote, by simp [watch, rejects, begun.rejected, absent]⟩

theorem completes_register {seen : Attempt} {userId : String} {created : CreateCustomerResult}
    {deviceInfo ip : Option String} {draws : Draws} (begun : seen.Open false) :
    Completes sessionId (register aes userId sessionId created deviceInfo ip draws :
      BindingTask client BindResult) seen := by
  intro world
  apply completes_upsertVerified begun
  intro last written
  apply completes_delete
  apply completes_writeAudit written rfl
  intro last closed
  apply completes_warm closed
  exact fun last closed => closed

/-- Without a phone there is nothing to audit. -/
theorem complete_of_phoneless {seen : Attempt} (phoneless : seen.phoned = false) :
    seen.Complete := by
  intro _ phoned
  rw [phoneless] at phoned
  cases phoned

/-- Only a conflict is caught. -/
theorem conflict_or_rejects (client : CustomerServiceClient) (sessionId phone : String) (profile : CreateCustomerRequest)
    (error : Exn) : (∃ message code details, error = .base .conflict message code details) ∨
      rejects sessionId (.answered (.inr (.client (.create phone profile))) (.error error) :
        BindingEvent client) = true := by
  cases error with
  | base kind message code details =>
      cases kind with
      | conflict => exact Or.inl ⟨message, code, details, rfl⟩
      | _ => exact Or.inr rfl
  | _ => exact Or.inr rfl

theorem completes_bindRegister {seen : Attempt} {userId : String}
    {profile : CreateCustomerRequest} {deviceInfo ip : Option String} {draws : Draws}
    (begun : seen.Open false) (phoneless : seen.phoned = false) :
    Completes sessionId (bindRegister aes userId sessionId profile deviceInfo ip draws :
      BindingTask client BindResult) seen := by
  intro reply
  cases reply with
  | failed applied reason =>
      apply complete_of_phoneless
      simp [watch, phoneless]
  | ok phone =>
      have still : (watch sessionId seen (.answered (.inr (.selectPhone userId))
          (Reply.ok phone) : BindingEvent client)).Open false :=
        ⟨begun.rows, begun.wrote, begun.rejected⟩
      change Completes sessionId
        (EventLoop.Task.bind (.done (phone.filter fun text => text ≠ "")) _) _
      rw [Task.done_bind]
      cases found : phone.filter fun text => text ≠ "" with
      | none =>
          apply complete_of_phoneless
          exact congrArg Option.isSome found
      | some text =>
          intro outcome
          cases outcome with
          | error error => exact complete_of_refused still.rows rfl
          | ok resolved =>
              change Completes sessionId (if resolved.status = .none then _ else _) _
              split
              · intro made
                cases made with
                | ok created => exact completes_register ((still.served rfl).served rfl)
                | error error =>
                    change Completes sessionId
                      (EventLoop.Task.bind (.done (Except.error error)) _) _
                    rw [Task.done_bind]
                    rcases conflict_or_rejects client sessionId text profile error with
                      ⟨message, code, details, rfl⟩ | rejected
                    · apply completes_writeAudit ((still.served rfl).served rfl) rfl
                      exact fun last closed => closed
                    · split
                      · rename_i same
                        cases same
                      · rename_i same
                        cases same
                        cases rejected
                      · exact complete_of_refused (still.served rfl).rows rejected
              · apply completes_writeAudit (still.served rfl) rfl
                exact fun last closed => closed

theorem completes_converted {task : BindingTask client α} {convert : α → β} {seen : Attempt}
    (completes : Completes sessionId task seen) :
    Completes sessionId (task >>= fun value => .done (convert value)) seen := by
  apply Observed.andThen completes
  · exact fun error last closed => closed
  · exact fun value last closed => closed

end Walk

/-! ### Whole calls -/

/-- The session of a call that changes bindings. -/
def BindingCall.mutationSession : BindingCall → Option String
  | .bind _ sessionId _ _ _ _ => some sessionId
  | .bindRegister _ sessionId _ _ _ _ => some sessionId
  | _ => none

/-- What a call did, read off its own entries. -/
def attemptOf (sessionId : String) (tid : Nat) (trace : BindingTrace client) : Attempt :=
  observation (watch sessionId) .nothing (ownEntries tid trace)

/-- The mutation that an entry ends, if it got past the phone check and every insert of an
audit row succeeded. -/
def endedAttempt (before : BindingTrace client) (entry : BindingTraceEntry client) :
    Option Attempt :=
  match entry.event with
  | .finished (.inr call) _ =>
      call.mutationSession.bind fun sessionId =>
        let seen := attemptOf sessionId entry.tid before
        if seen.kept && seen.phoned then some seen else none
  | _ => none

/-- A mutation that ends has left its one row. -/
def mutationAudited (before : BindingTrace client) (entry : BindingTraceEntry client) : Bool :=
  (endedAttempt before entry).all Attempt.auditedOnce

theorem completes_body {aes : AesGcm} {call : BindingCall} {sessionId : String}
    (mutates : call.mutationSession = some sessionId) :
    Completes sessionId (bindingBody aes call : BindingTask client Resolution)
      (watch sessionId .nothing (.started (.inr call) : BindingEvent client)) := by
  cases call with
  | bind userId session body deviceInfo ip draws =>
      cases mutates
      exact completes_converted (completes_bind ⟨rfl, rfl, rfl⟩)
  | bindRegister userId session profile deviceInfo ip draws =>
      cases mutates
      exact completes_converted (completes_bindRegister ⟨rfl, rfl, rfl⟩ rfl)
  | _ => cases mutates

/-- In every run, a mutation that got past the phone check and whose audit inserts succeeded
leaves its one truthful row if and only if none of its steps rejected. -/
theorem mutation_audited_iff (client : CustomerServiceClient) (aes : AesGcm) (wiring : Wiring)
    (environment : CacheEnvironment) (world : BindingWorld client) (p : BindingPool client)
    (reached : Reachable (bindingSystem client aes wiring environment) world p) :
    Always (fun before entry => ∀ seen, endedAttempt before entry = some seen →
      (seen.auditedOnce = true ↔ seen.rejected = false)) p.snapshot.trace := by
  intro before entry after split seen ended
  obtain ⟨tid, time, event⟩ := entry
  unfold endedAttempt at ended
  split at ended
  · rename_i call result same
    cases same
    obtain ⟨sessionId, mutates, ended⟩ := Option.bind_eq_some_iff.mp ended
    obtain ⟨passed, same⟩ := Option.ite_none_right_eq_some.mp ended
    cases same
    obtain ⟨kept, phoned⟩ := Bool.and_eq_true_iff.mp passed
    exact reached.observed (completes_body mutates) split kept phoned
  · cases ended

theorem mutation_audited_iff_first :
    ∃ p, Reachable (mockBinding redisBinding) (freshBinding 1700000000000) p ∧
      ¬ Passes (fun before entry => (endedAttempt before entry).isNone) p.snapshot.trace ∧
      Always (fun before entry => ∀ seen, endedAttempt before entry = some seen →
        (seen.auditedOnce = true ↔ seen.rejected = false)) p.snapshot.trace := by
  obtain ⟨p, reached, attempted⟩ : ∃ p, Reachable (mockBinding redisBinding)
      (freshBinding 1700000000000) p ∧
        ¬ Passes (fun before entry => (endedAttempt before entry).isNone) p.snapshot.trace :=
    exists_reachable _ _ (obliging redisBinding.backend "+84987654321") bindsFirst
      (by decide +kernel)
  exact ⟨p, reached, attempted,
    mutation_audited_iff mockCustomerService sampleCipher redisBinding .any _ p reached⟩

/-! ### A wrong secret while Redis cannot write -/

/-- The counter of the failure cannot be written. -/
def countingFails : List BindingMove :=
  arrives 0 (.bindInit "U-1" "S-1" none none) 9 ++
    arrives 1 (.bind "U-1" "S-1" ⟨"REF-001", .lastInvoiceAmount, "1"⟩ none none ⟨firstIv, "1"⟩) 7 ++
    [.act (.answer 1 (.inl (.cache (.set (userFailKey "U-1" "REF-001")
      (counter (.num 1) (.num 1700000000000)) (some USER_REF_WINDOW_SEC))))
      (Reply.failed false "ECONNREFUSED")), .turn 1]

/-- The attempt leaves no row. -/
theorem mutation_unaudited :
    ∃ p, Reachable (mockBinding redisBinding) (freshBinding 1700000000000) p ∧
      ¬ Passes mutationAudited p.snapshot.trace :=
  exists_reachable _ _ (obliging redisBinding.backend "+84987654321") countingFails
    (by decide +kernel)

end SelfService
