/-
How many wrong secrets a lock lets through.

A bind whose secret is wrong is one failure on the limiter's meters, one that
succeeds clears two of them, and any other leaves them alone.  The windows are
anchored: a window opens with a failure, and the failures it counts lock before
it closes, wherever the failures of an earlier window lie.  Binds that do not
overlap meet the lock; binds at once all pass the check before any of them counts.
-/

import SelfService.Binding.Lockout

namespace SelfService

open Data EventLoop BindingService BindingRateLimiter

/-! ### Tasks that leave the meters alone -/

/-- No entry of a meter has this name. -/
def Elsewhere (name : String) : Prop :=
  ∀ key : LockoutKey, name ≠ key.ceiling.failKey ∧ name ≠ key.ceiling.lockKey

theorem elsewhere_initKey (sessionId : String) : Elsewhere (initKey sessionId) := by
  intro key
  constructor
  · exact ne_of_family (family_initKey sessionId) key.isCeiling.family_failKey (by decide)
  · exact ne_of_family (family_initKey sessionId) key.isCeiling.family_lockKey (by decide)

theorem elsewhere_bindKey {userId : String} (plain : ':' ∉ userId.toList) :
    Elsewhere (bindKey userId) := by
  have ne {rest : String} (kind : String) (colon : ':' ∈ kind.toList) :
      bindKey userId ≠ "bind:" ++ (kind ++ rest) := by
    intro same
    have user := (String.append_right_inj _).mp same
    rw [user, String.toList_append] at plain
    exact plain (List.mem_append_left _ colon)
  intro key
  constructor
  · rw [key.failKey_eq, show "bind:fail:" = "bind:" ++ "fail:" from rfl, String.append_assoc]
    exact ne "fail:" (by decide)
  · rw [key.lockKey_eq, show "bind:lock:" = "bind:" ++ "lock:" from rfl, String.append_assoc]
    exact ne "lock:" (by decide)

/-- Requests that leave the entries of the meters alone. -/
inductive Sparing : PortRequest ⊕ BindingRequest → Prop
  | outside (request : BindingRequest) : Sparing (.inr request)
  | get (key : String) : Sparing (.inl (.cache (.get key)))
  | set (key : String) (value : JsValue) (ttl : Option Nat) (elsewhere : Elsewhere key) :
      Sparing (.inl (.cache (.set key value ttl)))
  | delete (key : String) (elsewhere : Elsewhere key) : Sparing (.inl (.cache (.delete key)))

section Sparing

variable {client : CustomerServiceClient} {d : Deployment (binding client)}
  {service : Service (binding client)} {answers : Answering (portSignature (binding client))}
  {α : Type} {world middle after : BindingWorld client} {ledger : LockoutKey → Meter}

/-- At the same instant, the entries of the meters are what they were. -/
structure SparesMeters (backend : Backend) (world after : BindingWorld client) : Prop where
  now : after.now = world.now
  counts : ∀ key : LockoutKey,
    after.view backend key.ceiling.failKey = world.view backend key.ceiling.failKey
  locks : ∀ key : LockoutKey,
    after.view backend key.ceiling.lockKey = world.view backend key.ceiling.lockKey

theorem SparesMeters.refl (backend : Backend) (world : BindingWorld client) :
    SparesMeters backend world world :=
  ⟨rfl, fun _ => rfl, fun _ => rfl⟩

theorem SparesMeters.trans {backend : Backend} (first : SparesMeters backend world middle)
    (second : SparesMeters backend middle after) : SparesMeters backend world after where
  now := second.now.trans first.now
  counts key := (second.counts key).trans (first.counts key)
  locks key := (second.locks key).trans (first.locks key)

theorem HoldsLedger.spared {backend : Backend}
    (all : HoldsLedger world.now (world.view backend) ledger)
    (spares : SparesMeters backend world after) :
    HoldsLedger after.now (after.view backend) ledger := by
  intro key plain
  rw [spares.now]
  exact (all key plain).congr (spares.locks key) (spares.counts key)

theorem spares_of_cache (working : d.environment = .working d.backend) {command : CacheCommand}
    {answer : command.Answer}
    (performed : performPort d world (.cache command) answer = some after)
    (untouched : ∀ name, ¬ Elsewhere name →
      d.backend.touch (getFullKey d.backend.options name) world.now command answer = none) :
    SparesMeters d.backend world after := by
  obtain ⟨allowed, cache, served, rfl⟩ := performPort_cache performed
  rw [working] at allowed
  refine ⟨rfl, fun key => ?_, fun key => ?_⟩
  · exact Backend.view_elsewhere allowed served (untouched _ fun away => (away key).1 rfl)
  · exact Backend.view_elsewhere allowed served (untouched _ fun away => (away key).2 rfl)

theorem spares_of_perform (working : d.environment = .working d.backend)
    {request : PortRequest ⊕ BindingRequest}
    {answer : (portSignature (binding client)).Ans request} (sparing : Sparing request)
    (performed : (portSystem d service).perform world request answer = some after) :
    SparesMeters d.backend world after := by
  have other {name key : String} (away : Elsewhere key) (near : ¬ Elsewhere name) :
      getFullKey d.backend.options key ≠ getFullKey d.backend.options name :=
    fun same => near (getFullKey_injective _ same ▸ away)
  cases sparing with
  | outside request =>
      obtain ⟨state, -, rfl⟩ := Option.map_eq_some_iff.mp performed
      exact ⟨rfl, fun _ => rfl, fun _ => rfl⟩
  | get key => exact spares_of_cache working performed fun _ _ => rfl
  | set key value ttl elsewhere =>
      apply spares_of_cache working performed
      intro name near
      exact if_neg fun both => other elsewhere near both.2
  | delete key elsewhere =>
      apply spares_of_cache working performed
      intro name near
      exact if_neg fun both => other elsewhere near both.2

theorem spares_of_asks (working : d.environment = .working d.backend)
    {task : BindingTask client α} (asks : task.Asks Sparing fun _ => True)
    {out : Except Exn α}
    (ran : runAlone (portSystem d service) answers task world = some (out, after)) :
    SparesMeters d.backend world after := by
  induction task generalizing world with
  | done value =>
      cases ran
      exact .refl _ _
  | fail error =>
      cases ran
      exact .refl _ _
  | sync update next ih =>
      obtain ⟨rfl, asks⟩ := asks
      exact ih world (asks world) ran
  | mark label next ih => exact ih asks.2 ran
  | fork call next ih => exact asks.elim
  | await request next ih =>
      obtain ⟨later, performed, rest⟩ := Option.bind_eq_some_iff.mp ran
      exact (spares_of_perform working asks.1 performed).trans (ih _ (asks.2 _) rest)

theorem Consults.sparing {task : BindingTask client α} (consults : Consults task) :
    task.Asks Sparing fun _ => True := by
  apply consults.weaken
  rintro _ ⟨request⟩
  exact .outside request

theorem sparing_warm {userId customerRef : String} {values : VerifiedValues}
    (plain : ':' ∉ userId.toList) :
    (warm userId customerRef values : BindingTask client Unit).Asks Sparing fun _ => True := by
  apply Task.Asks.bind
  · exact (asks_set (.set _ _ _ (elsewhere_bindKey plain))).attempt
  · exact fun _ => trivial

/-- An attempt that is turned down fails and leaves the meters alone. -/
theorem turned_down (working : d.environment = .working d.backend) {entry : BindingAuditEntry}
    {error : Exn} {out : Except Exn α}
    (ran : runAlone (portSystem d service) answers
      (writeAudit entry >>= fun _ => (.fail error : BindingTask client α)) world =
        some (out, after)) :
    (∃ error, out = .error error) ∧ SparesMeters d.backend world after := by
  constructor
  · rcases runAlone_peel ran with ⟨other, -, failed⟩ | ⟨value, middle, -, rest⟩
    · exact ⟨other, failed⟩
    · cases rest
      exact ⟨error, rfl⟩
  · refine spares_of_asks working ?_ ran
    exact (consults_writeAudit entry).sparing.bind fun _ => trivial

end Sparing

/-! ### One bind -/

section Calls

variable {client : CustomerServiceClient}

/-- The challenge until the customer service has told whether the secret is right. -/
def judgeSecret (userId : String) (body : BindBody) : BindingTask client (Option Bool) := do
  let lock ← BindingRateLimiter.checkLocked userId body.customerRef
  if lock.locked then return none
  else
    let verdict ← CustomerServiceClient.verify
      ⟨body.customerRef, body.secretType, body.secretValue⟩
    return some verdict.verified

def judge (userId : String) (body : BindBody) (init : JsValue) :
    BindingTask client (Option Bool) :=
  if init.truthy then
    match allowedRefs init with
    | .error _ => .done none
    | .ok refs => if .str body.customerRef ∈ refs then judgeSecret userId body else .done none
  else .done none

/-- What a bind does until its secret was judged, if it is. -/
def untilVerdict (userId sessionId : String) (body : BindBody) :
    BindingTask client (Option Bool) := do
  let init ← CacheService.get (initKey sessionId)
  judge userId body init

def saysWrong (ended : Option (Except Exn (Option Bool) × BindingWorld client)) : Bool :=
  match ended with
  | some (.ok (some verified), _) => !verified
  | _ => false

/-- The customer service says that the secret is wrong. -/
def tellsWrong (sys : System (portSignature (binding client)) Resolution PortExternal)
    (answers : Answering (portSignature (binding client))) (world : BindingWorld client)
    (userId sessionId : String) (body : BindBody) : Bool :=
  saysWrong (runAlone sys answers (untilVerdict userId sessionId body) world)

def binds : Except Exn BindResult → Bool
  | .ok result => result.bound
  | .error _ => false

/-- What a bind is to the limiter. -/
def countedAs (refused : Bool) (out : Except Exn BindResult) (userId customerRef : String) :
    LimiterCall :=
  if refused then .recordFailure userId customerRef
  else if binds out then .clearFailures userId customerRef
  else .checkLocked userId customerRef

variable {d : Deployment (binding client)} {service : Service (binding client)}
  {answers : Answering (portSignature (binding client))} {aes : AesGcm}
  {world after : BindingWorld client} {ledger : LockoutKey → Meter}
  {userId sessionId : String} {body : BindBody} {deviceInfo ip : Option String} {draws : Draws}
  {out : Except Exn BindResult}

/-- The meters of the ledger are in the cache after this call. -/
def HoldsAfter (backend : Backend) (world : BindingWorld client) (ledger : LockoutKey → Meter)
    (call : LimiterCall) (after : BindingWorld client) : Prop :=
  after.now = world.now ∧ HoldsLedger after.now (after.view backend)
    (recordAll LockoutKey.rule world.now ledger call.events)

theorem HoldsAfter.spared {backend : Backend} {call : LimiterCall} {middle : BindingWorld client}
    (first : HoldsAfter backend world ledger call middle)
    (spares : SparesMeters backend middle after) :
    HoldsAfter backend world ledger call after :=
  ⟨spares.now.trans first.1, first.2.spared spares⟩

theorem holdsAfter_of_spares (all : HoldsLedger world.now (world.view d.backend) ledger)
    (spares : SparesMeters d.backend world after) {call : LimiterCall} (silent : call.events = []) :
    HoldsAfter d.backend world ledger call after := by
  refine ⟨spares.now, ?_⟩
  rw [silent]
  exact all.spared spares

theorem HoldsAfter.since {backend : Backend} {call : LimiterCall} {middle : BindingWorld client}
    (later : HoldsAfter backend middle ledger call after)
    (spares : SparesMeters backend world middle) :
    HoldsAfter backend world ledger call after := by
  obtain ⟨now, holds⟩ := later
  rw [spares.now] at now holds
  exact ⟨now, holds⟩

theorem returns_writeAudit (entry : BindingAuditEntry) :
    Returns (portSystem d service) answers (writeAudit entry : BindingTask client Unit) world
      fun _ _ => True :=
  Returns.attempt.bind fun _ _ _ => Returns.done trivial

theorem returns_warm (userId customerRef : String) (values : VerifiedValues) :
    Returns (portSystem d service) answers
      (warm userId customerRef values : BindingTask client Unit) world fun _ _ => True :=
  Returns.attempt.bind fun _ _ _ => Returns.done trivial

theorem complete_counts (working : d.environment = .working d.backend)
    (all : HoldsLedger world.now (world.view d.backend) ledger) (plain : ':' ∉ userId.toList)
    (ran : runAlone (portSystem d service) answers
      (complete aes userId sessionId body deviceInfo ip draws) world = some (out, after)) :
    HoldsAfter d.backend world ledger (countedAs false out userId body.customerRef) after := by
  rcases runAlone_peel ran with ⟨error, failed, rfl⟩ | ⟨profile, first, profiled, rest⟩
  · exact holdsAfter_of_spares all
      (spares_of_asks working (consults_profile _).sparing failed) rfl
  have firstSpares := spares_of_asks working (consults_profile _).sparing profiled
  change runAlone _ _ (upsertVerified userId body.customerRef _ draws.rowId >>= _) first = _ at rest
  rcases runAlone_peel rest with ⟨error, failed, rfl⟩ | ⟨_, second, written, rest⟩
  · exact holdsAfter_of_spares all (firstSpares.trans
      (spares_of_asks working (consults_upsertVerified _ _ _ _).sparing failed)) rfl
  have secondSpares := firstSpares.trans
    (spares_of_asks working (consults_upsertVerified _ _ _ _).sparing written)
  have cleared : Returns (portSystem d service) answers
      (clearFailures userId body.customerRef : BindingTask client Unit) second fun _ third =>
        HoldsAfter d.backend second ledger (.clearFailures userId body.customerRef) third :=
    returns_task working (all.spared secondSpares) (.clearFailures userId body.customerRef) plain
  obtain ⟨_, third, -, holds, rest⟩ := cleared.peel rest
  obtain ⟨_, fourth, fourthRan, -, rest⟩ :=
    (returns_delete working (initKey sessionId)).peel rest
  obtain ⟨_, fifth, fifthRan, -, rest⟩ := (returns_writeAudit _).peel rest
  obtain ⟨_, sixth, sixthRan, -, rest⟩ := (returns_warm _ _ _).peel rest
  cases rest
  have consumed := spares_of_asks working (asks_delete (.delete _ (elsewhere_initKey sessionId)))
    fourthRan
  have audited := spares_of_asks working (consults_writeAudit _).sparing fifthRan
  have warmed := spares_of_asks working (sparing_warm plain) sixthRan
  have spares : SparesMeters d.backend third after := (consumed.trans audited).trans warmed
  exact (holds.since secondSpares).spared spares

theorem refuse_counts (working : d.environment = .working d.backend)
    (all : HoldsLedger world.now (world.view d.backend) ledger) (plain : ':' ∉ userId.toList)
    (ran : runAlone (portSystem d service) answers
      (refuse userId body deviceInfo ip) world = some (out, after)) :
    HoldsAfter d.backend world ledger (.recordFailure userId body.customerRef) after := by
  obtain ⟨fail, first, -, ⟨-, now, later⟩, rest⟩ :=
    (returns_recordFailure working all plain body.customerRef).peel ran
  refine HoldsAfter.spared ⟨now, later⟩ ?_
  simp only at rest
  split at rest
  · exact (turned_down working rest).2
  · refine spares_of_asks working ?_ rest
    exact (consults_writeAudit _).sparing.bind fun _ => trivial

theorem challenge_counts (working : d.environment = .working d.backend)
    (all : HoldsLedger world.now (world.view d.backend) ledger) (plain : ':' ∉ userId.toList)
    (ran : runAlone (portSystem d service) answers
      (challenge aes userId sessionId body deviceInfo ip draws) world = some (out, after)) :
    HoldsAfter d.backend world ledger
      (countedAs
        (saysWrong (runAlone (portSystem d service) answers (judgeSecret userId body) world)) out
        userId body.customerRef) after := by
  obtain ⟨lock, first, checked, ⟨-, leaves⟩, rest⟩ :=
    (returns_checkLocked working all plain body.customerRef).peel ran
  have firstSpares : SparesMeters d.backend world first :=
    ⟨leaves.now, fun _ => congrFun leaves.view _, fun _ => congrFun leaves.view _⟩
  rw [judgeSecret, runAlone_bind, checked, Option.bind_some]
  simp only at rest ⊢
  cases locked : lock.locked with
  | true =>
      rw [if_pos locked] at rest
      rw [if_pos rfl]
      obtain ⟨⟨error, rfl⟩, spares⟩ := turned_down working rest
      exact holdsAfter_of_spares all (firstSpares.trans spares) rfl
  | false =>
      rw [if_neg (Bool.eq_false_iff.mp locked)] at rest
      rw [if_neg Bool.false_ne_true]
      rcases runAlone_peel rest with ⟨error, failed, rfl⟩ | ⟨verdict, second, told, rest⟩
      · rw [runAlone_bind, failed, Option.bind_some]
        exact holdsAfter_of_spares all (firstSpares.trans
          (spares_of_asks working (consults_verify _).sparing failed)) rfl
      · have spares := firstSpares.trans
          (spares_of_asks working (consults_verify _).sparing told)
        rw [runAlone_bind, told, Option.bind_some]
        obtain ⟨verified⟩ := verdict
        cases verified with
        | true => exact (complete_counts working (all.spared spares) plain rest).since spares
        | false => exact (refuse_counts working (all.spared spares) plain rest).since spares

theorem unlocked_of_saysWrong (working : d.environment = .working d.backend)
    (all : HoldsLedger world.now (world.view d.backend) ledger) (plain : ':' ∉ userId.toList)
    (wrong : saysWrong (runAlone (portSystem d service) answers
      (judgeSecret userId body : BindingTask client (Option Bool)) world) = true) :
    lockReason ledger world.now userId body.customerRef = none := by
  rw [judgeSecret, runAlone_bind] at wrong
  cases checked : runAlone (portSystem d service) answers
      (checkLocked userId body.customerRef : BindingTask client LockState) world with
  | none =>
      rw [checked] at wrong
      cases wrong
  | some ended =>
      obtain ⟨out, first⟩ := ended
      obtain ⟨lock, rfl, ⟨reason, isLocked⟩, -⟩ :=
        returns_checkLocked working all plain body.customerRef out first checked
      rw [checked, Option.bind_some] at wrong
      simp only at wrong
      cases locked : lock.locked with
      | true =>
          rw [if_pos locked] at wrong
          cases wrong
      | false =>
          rw [← reason, ← Option.not_isSome_iff_eq_none, ← isLocked, locked]
          exact Bool.false_ne_true

/-- A bind does to the meters what it is counted as. -/
theorem bind_counts (working : d.environment = .working d.backend)
    (all : HoldsLedger world.now (world.view d.backend) ledger) (plain : ':' ∉ userId.toList)
    (ran : runAlone (portSystem d service) answers
      (bind aes userId sessionId body deviceInfo ip draws) world = some (out, after)) :
    HoldsAfter d.backend world ledger
      (countedAs (tellsWrong (portSystem d service) answers world userId sessionId body) out userId
        body.customerRef) after := by
  obtain ⟨init, first, got, -, rest⟩ := (returns_get working (initKey sessionId)).peel ran
  have firstSpares := spares_of_asks working (asks_get (.get _)) got
  rw [tellsWrong, untilVerdict, runAlone_bind, got, Option.bind_some]
  simp only at rest ⊢
  rw [judge]
  split at rest
  · rename_i present
    rw [if_pos present]
    cases read : allowedRefs init with
    | error error =>
        rw [read] at rest
        cases rest
        exact holdsAfter_of_spares all firstSpares rfl
    | ok refs =>
        rw [read] at rest
        simp only at rest ⊢
        split at rest
        · rename_i chosen
          rw [if_pos chosen]
          exact (challenge_counts working (all.spared firstSpares) plain rest).since firstSpares
        · rename_i foreign
          rw [if_neg foreign]
          obtain ⟨⟨error, rfl⟩, spares⟩ := turned_down working rest
          exact holdsAfter_of_spares all (firstSpares.trans spares) rfl
  · rename_i missing
    rw [if_neg missing]
    obtain ⟨⟨error, rfl⟩, spares⟩ := turned_down working rest
    exact holdsAfter_of_spares all (firstSpares.trans spares) rfl

/-- A secret is judged only where no lock holds. -/
theorem unlocked_of_tellsWrong (working : d.environment = .working d.backend)
    (all : HoldsLedger world.now (world.view d.backend) ledger) (plain : ':' ∉ userId.toList)
    (refused : tellsWrong (portSystem d service) answers world userId sessionId body = true) :
    lockReason ledger world.now userId body.customerRef = none := by
  rw [tellsWrong, untilVerdict, runAlone_bind] at refused
  cases got : runAlone (portSystem d service) answers
      (CacheService.get (initKey sessionId) : BindingTask client JsValue) world with
  | none =>
      rw [got] at refused
      cases refused
  | some ended =>
      obtain ⟨out, first⟩ := ended
      obtain ⟨init, rfl, -, leaves⟩ := returns_get working (initKey sessionId) out first got
      rw [got, Option.bind_some] at refused
      change saysWrong (runAlone _ _ (judge userId body init) first) = true at refused
      rw [judge] at refused
      split at refused
      · split at refused
        · cases refused
        · split at refused
          · rw [← leaves.now]
            exact unlocked_of_saysWrong working (all.leaves leaves) plain refused
          · cases refused
      · cases refused

theorem sparing_bindInit :
    (bindInit userId sessionId deviceInfo ip : BindingTask client ResolveResult).Asks Sparing
      fun _ => True := by
  apply (consults_getSessionPhone userId).sparing.bind
  intro phone
  cases phone with
  | none => exact trivial
  | some phone =>
      apply (consults_resolve phone).sparing.bind
      intro result
      apply (consults_writeAudit _).sparing.bind
      intro _
      exact (asks_set (.set _ _ _ (elsewhere_initKey sessionId))).bind fun _ => trivial

end Calls

/-! ### In every sequential run -/

def LimiterEntry.fails (key : LockoutKey) (timed : LimiterEntry) : Bool :=
  timed.events.any (MeterEvent.fails key)

def LimiterEntry.clears (key : LockoutKey) (timed : LimiterEntry) : Bool :=
  timed.events.any (MeterEvent.clears key)

theorem ne_key_of_neither {key : LockoutKey} {timed : LimiterEntry}
    (fails : timed.fails key = false) (clears : timed.clears key = false) :
    ∀ event ∈ timed.events, key ≠ event.key := by
  intro event member
  apply ne_key_of_silent
  · exact Bool.eq_false_iff.mpr (List.any_eq_false.mp fails event member)
  · exact Bool.eq_false_iff.mpr (List.any_eq_false.mp clears event member)

/-- A failure counts once on each of its meters. -/
theorem recordAll_of_fails {key : LockoutKey} (timed : LimiterEntry)
    (fails : timed.fails key = true) (ledger : LockoutKey → Meter) :
    recordAll LockoutKey.rule timed.now ledger timed.events key =
      (ledger key).fail key.rule timed.now := by
  obtain ⟨event, member, failed⟩ := List.any_eq_true.mp fails
  cases event with
  | clear other => cases failed
  | fail other =>
      obtain rfl : other = key := of_decide_eq_true failed
      obtain ⟨now, call⟩ := timed
      cases call with
      | checkLocked userId customerRef => cases member
      | clearFailures userId customerRef =>
          simp [LimiterEntry.events, LimiterCall.events] at member
      | recordFailure userId customerRef =>
          simp only [LimiterEntry.events, LimiterCall.events, List.mem_cons, List.not_mem_nil,
            MeterEvent.fail.injEq, or_false] at member
          rcases member with rfl | rfl | rfl
          · change recordAll LockoutKey.rule now ledger ([] ++
              .fail (.userRef userId customerRef) ::
                [.fail (.customer customerRef), .fail (.userTotal userId)]) _ = _
            apply recordAll_of_once
            · simp
            · simp [MeterEvent.key]
          · change recordAll LockoutKey.rule now ledger ([.fail (.userRef userId customerRef)] ++
              .fail (.customer customerRef) :: [.fail (.userTotal userId)]) _ = _
            apply recordAll_of_once
            · simp [MeterEvent.key]
            · simp [MeterEvent.key]
          · change recordAll LockoutKey.rule now ledger ([.fail (.userRef userId customerRef),
              .fail (.customer customerRef)] ++ .fail (.userTotal userId) :: []) _ = _
            apply recordAll_of_once
            · simp [MeterEvent.key]
            · simp

section BindRuns

variable {client : CustomerServiceClient} {aes : AesGcm} {wiring : Wiring}
  {start world : BindingWorld client} {history recent : List LimiterEntry}

/-- Binds one after the other, each at an instant, over a cache that works.  Between them
sessions ask for their customers, time passes, what has expired is dropped and the configuration
is reloaded. -/
inductive BindRun (client : CustomerServiceClient) (aes : AesGcm) (wiring : Wiring)
    (start : BindingWorld client) : List LimiterEntry → BindingWorld client → Prop
  | start : BindRun client aes wiring start [] start
  | between {history : List LimiterEntry} {world after : BindingWorld client}
      (run : BindRun client aes wiring start history world) (event : PortExternal)
      (moved : (bindingSystem client aes wiring (.working wiring.backend)).external world event =
        some after) :
      BindRun client aes wiring start history after
  | bindInit {history : List LimiterEntry} {world after : BindingWorld client}
      {answers : Answering (portSignature (binding client))} {out : Except Exn ResolveResult}
      (run : BindRun client aes wiring start history world) (userId sessionId : String)
      (deviceInfo ip : Option String)
      (ran : runAlone (bindingSystem client aes wiring (.working wiring.backend)) answers
        (BindingService.bindInit userId sessionId deviceInfo ip) world = some (out, after)) :
      BindRun client aes wiring start history after
  | bind {history : List LimiterEntry} {world after : BindingWorld client}
      {answers : Answering (portSignature (binding client))} {out : Except Exn BindResult}
      (run : BindRun client aes wiring start history world) (userId sessionId : String)
      (body : BindBody) (deviceInfo ip : Option String) (draws : Draws)
      (plain : ':' ∉ userId.toList)
      (ran : runAlone (bindingSystem client aes wiring (.working wiring.backend)) answers
        (BindingService.bind aes userId sessionId body deviceInfo ip draws) world =
          some (out, after)) :
      BindRun client aes wiring start (history ++ [⟨world.now, countedAs
        (tellsWrong (bindingSystem client aes wiring (.working wiring.backend)) answers world userId
          sessionId body) out userId body.customerRef⟩]) after

theorem BindRun.holds (run : BindRun client aes wiring start history world)
    (unused : Unused wiring.backend start) :
    HoldsLedger world.now (world.view wiring.backend) (lockouts history) := by
  induction run with
  | start => exact holdsLedger_of_unused unused
  | between run event moved ih =>
      obtain ⟨order, view⟩ := view_of_external
        (d := bindingDeployment client wiring (.working wiring.backend)) rfl moved
      exact fun key plain => (ih key plain).later order view
  | bindInit run userId sessionId deviceInfo ip ran ih =>
      exact ih.spared (spares_of_asks
        (d := bindingDeployment client wiring (.working wiring.backend)) rfl sparing_bindInit ran)
  | bind run userId sessionId body deviceInfo ip draws plain ran ih =>
      obtain ⟨-, later⟩ := bind_counts
        (d := bindingDeployment client wiring (.working wiring.backend)) rfl ih plain ran
      rw [lockouts, replay_append]
      exact later

theorem lockReason_of_bears {ledger : LockoutKey → Meter} {key : LockoutKey} {now : Nat}
    {userId customerRef : String} (bears : key.Bears userId customerRef)
    (locked : (ledger key).locked now = true) :
    (lockReason ledger now userId customerRef).isSome = true := by
  rw [lockReason_isSome]
  cases key with
  | userRef otherId otherRef =>
      obtain ⟨rfl, rfl⟩ := bears
      exact Or.inr (Or.inl locked)
  | customer otherRef =>
      obtain rfl : otherRef = customerRef := bears
      exact Or.inr (Or.inr locked)
  | userTotal otherId =>
      obtain rfl : otherId = userId := bears
      exact Or.inl locked

/-- From a wrong secret that finds no running window on, the one that reaches the limit before
the window closes arms the lock, if no success has cleared the meter in between. -/
theorem window_ceiling (client : CustomerServiceClient) (aes : AesGcm) (wiring : Wiring)
    {start world : BindingWorld client} {history recent : List LimiterEntry}
    (unused : Unused wiring.backend start)
    (run : BindRun client aes wiring start (history ++ recent) world) (key : LockoutKey)
    (plain : key.Plain) {first last : Nat} {middle : List Nat}
    (failures : (recent.filter (LimiterEntry.fails key)).map LimiterEntry.now =
      first :: (middle ++ [last]))
    (fresh : ∀ window, (lockouts history key).window = some window →
      window.since + key.rule.window ≤ first)
    (within : ∀ now ∈ middle ++ [last], now < first + key.rule.window)
    (enough : middle.length + 2 = key.rule.limit)
    (uncleared : ∀ timed ∈ recent, timed.clears key = false)
    (lasts : world.now ≤ last + key.rule.lock) :
    world.view wiring.backend key.ceiling.lockKey =
        some ⟨.num 1, some (last + key.rule.lock)⟩ ∧
      ∀ userId customerRef, ':' ∉ userId.toList → key.Bears userId customerRef → ∀ answers,
        Returns (bindingSystem client aes wiring (.working wiring.backend)) answers
          (checkLocked userId customerRef) world fun state _ => state.locked = true := by
  have armed : lockouts (history ++ recent) key = ⟨none, some (last + key.rule.lock)⟩ := by
    rw [lockouts, replay_concat, replayFrom_eq_failAll (LimiterEntry.fails key) recordAll_of_fails
      fun timed member silent => ne_key_of_neither silent (uncleared timed member), failures]
    exact Meter.failAll_arms fresh within enough
  have held := run.holds unused
  constructor
  · rw [(held key plain).lock, armed]
    simp [Option.filter, lasts]
  · intro userId customerRef plainUser bears answers
    apply (returns_checkLocked (d := bindingDeployment client wiring (.working wiring.backend)) rfl
      held plainUser customerRef).mono
    rintro state after ⟨⟨reason, locked⟩, -⟩
    rw [locked, reason]
    apply lockReason_of_bears bears
    rw [armed]
    simp [Meter.locked, lasts]

theorem LockoutKey.bears_of_fails {key : LockoutKey} {now : Nat} {userId customerRef : String}
    (fails : LimiterEntry.fails key ⟨now, .recordFailure userId customerRef⟩ = true) :
    key.Bears userId customerRef := by
  simp only [LimiterEntry.fails, LimiterEntry.events, LimiterCall.events, List.any_cons,
    List.any_nil, MeterEvent.fails, Bool.or_false, Bool.or_eq_true, decide_eq_true_eq] at fails
  rcases fails with rfl | rfl | rfl
  · exact ⟨rfl, rfl⟩
  · exact rfl
  · exact rfl

/-- A failure finds its meters unlocked. -/
theorem BindRun.unlocked (run : BindRun client aes wiring start history world)
    (unused : Unused wiring.backend start) {key : LockoutKey} {early late : List LimiterEntry}
    {timed : LimiterEntry} (split : history = early ++ timed :: late)
    (fails : timed.fails key = true) : (lockouts early key).locked timed.now = false := by
  induction run generalizing late with
  | start => simp at split
  | between run event moved ih => exact ih split
  | bindInit run userId sessionId deviceInfo ip ran ih => exact ih split
  | @bind history world after answers out run userId sessionId body deviceInfo ip draws plain ran
      ih =>
      rcases List.eq_nil_or_concat late with rfl | ⟨front, final, rfl⟩
      · obtain ⟨rfl, same⟩ := List.append_inj' split rfl
        obtain rfl := List.singleton_inj.mp same
        cases refused : tellsWrong (bindingSystem client aes wiring (.working wiring.backend))
            answers world userId sessionId body with
        | false =>
            rw [refused] at fails
            cases bound : binds out with
            | true => simp [countedAs, bound, LimiterEntry.fails, LimiterEntry.events,
                LimiterCall.events, MeterEvent.fails] at fails
            | false => simp [countedAs, bound, LimiterEntry.fails, LimiterEntry.events,
                LimiterCall.events] at fails
        | true =>
            rw [refused] at fails
            have bears := LockoutKey.bears_of_fails fails
            have unlocked := unlocked_of_tellsWrong
              (d := bindingDeployment client wiring (.working wiring.backend)) rfl
              (run.holds unused) plain refused
            apply eq_false_of_ne_true
            intro locked
            have lock := lockReason_of_bears bears locked
            rw [unlocked] at lock
            cases lock
      · rw [List.concat_eq_append, ← List.cons_append, ← List.append_assoc] at split
        exact ih (List.append_inj' split rfl).1

/-- The instants of a history do not decrease. -/
theorem BindRun.ordered (run : BindRun client aes wiring start history world)
    (unused : Unused wiring.backend start) :
    history.Pairwise (fun earlier later => earlier.now ≤ later.now) ∧
      ∀ timed ∈ history, timed.now ≤ world.now := by
  induction run with
  | start => exact ⟨.nil, fun _ member => (List.not_mem_nil member).elim⟩
  | between run event moved ih =>
      obtain ⟨order, -⟩ := view_of_external
        (d := bindingDeployment client wiring (.working wiring.backend)) rfl moved
      exact ⟨ih.1, fun timed member => Nat.le_trans (ih.2 timed member) order⟩
  | bindInit run userId sessionId deviceInfo ip ran ih =>
      have spares := spares_of_asks
        (d := bindingDeployment client wiring (.working wiring.backend)) rfl sparing_bindInit ran
      refine ⟨ih.1, fun timed member => ?_⟩
      rw [spares.now]
      exact ih.2 timed member
  | bind run userId sessionId body deviceInfo ip draws plain ran ih =>
      obtain ⟨still, -⟩ := bind_counts
        (d := bindingDeployment client wiring (.working wiring.backend)) rfl (run.holds unused)
        plain ran
      constructor
      · refine List.pairwise_append.mpr ⟨ih.1, List.pairwise_singleton _ _, ?_⟩
        intro earlier member later last
        rw [List.mem_singleton.mp last]
        exact ih.2 earlier member
      · intro timed member
        rw [still]
        rcases List.mem_append.mp member with before | last
        · exact ih.2 timed before
        · rw [List.mem_singleton.mp last]

theorem LockoutKey.window_le_lock (key : LockoutKey) : key.rule.window ≤ key.rule.lock := by
  cases key with
  | userRef userId customerRef => exact Nat.le_refl _
  | customer customerRef =>
      exact (by decide : CUSTOMER_REF_WINDOW_SEC * 1000 ≤ CUSTOMER_REF_LOCK_SEC * 1000)
  | userTotal userId => exact Nat.le_refl _

theorem LockoutKey.two_le_limit (key : LockoutKey) : 2 ≤ key.rule.limit := by
  cases key with
  | userRef userId customerRef => exact (by decide : 2 ≤ USER_REF_LIMIT)
  | customer customerRef => exact (by decide : 2 ≤ CUSTOMER_REF_LIMIT)
  | userTotal userId => exact (by decide : 2 ≤ USER_TOTAL_LIMIT)

/-- While no success clears the meter, a window sees no more wrong secrets than the limit. -/
theorem window_refusals_le (client : CustomerServiceClient) (aes : AesGcm) (wiring : Wiring)
    {start world : BindingWorld client} {history recent : List LimiterEntry}
    (unused : Unused wiring.backend start)
    (run : BindRun client aes wiring start (history ++ recent) world) (key : LockoutKey)
    {first : Nat} {rest : List Nat}
    (failures : (recent.filter (LimiterEntry.fails key)).map LimiterEntry.now = first :: rest)
    (fresh : ∀ window, (lockouts history key).window = some window →
      window.since + key.rule.window ≤ first)
    (within : ∀ now ∈ rest, now < first + key.rule.window)
    (uncleared : ∀ timed ∈ recent, timed.clears key = false) :
    (first :: rest).length ≤ key.rule.limit := by
  apply Meter.failures_le fresh within
  · have order := (List.pairwise_append.mp (run.ordered unused).1).2.1
    have sorted : (first :: rest).Pairwise (· ≤ ·) := by
      rw [← failures]
      exact List.pairwise_map.mpr (order.filter _)
    exact (List.pairwise_cons.mp sorted).1
  · intro early now late split
    rw [← failures] at split
    obtain ⟨before, rest', filtered, rfl, later⟩ := List.map_eq_append_iff.mp split
    obtain ⟨timed, after, rfl, rfl, -⟩ := List.map_eq_cons_iff.mp later
    obtain ⟨part, remaining, rfl, rfl, tail⟩ := List.filter_eq_append_iff.mp filtered
    obtain ⟨skipped, last, rfl, others, fails, -⟩ := List.filter_eq_cons_iff.mp tail
    have whole : history ++ (part ++ (skipped ++ timed :: last)) =
        (history ++ (part ++ skipped)) ++ timed :: last := by simp
    have unlocked := run.unlocked unused whole fails
    rw [lockouts, replay_concat, replayFrom_eq_failAll (LimiterEntry.fails key) recordAll_of_fails,
      List.filter_append, List.filter_eq_nil_iff.mpr others, List.append_nil] at unlocked
    · exact unlocked
    · intro other member silent
      apply ne_key_of_neither silent (uncleared other _)
      simp only [List.mem_append] at member ⊢
      exact member.imp_right Or.inl
  · exact key.two_le_limit
  · exact key.window_le_lock

end BindRuns

/-! ### Windows of a quarter of an hour -/

abbrev challengeAnswers : Answering (portSignature (binding mockCustomerService)) :=
  obliging memoryBinding.backend "+84987654321"

abbrev challengeSystem : System (portSignature (binding mockCustomerService)) Resolution
    PortExternal :=
  bindingSystem mockCustomerService sampleCipher memoryBinding (.working memoryBinding.backend)

abbrev SampleRun (history : List LimiterEntry) (world : BindingWorld mockCustomerService) : Prop :=
  BindRun mockCustomerService sampleCipher memoryBinding (freshBinding 0) history world

def wrongSecret : BindBody := ⟨"REF-001", .lastInvoiceAmount, "1"⟩

def afterInit (world : BindingWorld mockCustomerService) :
    Option (Except Exn ResolveResult × BindingWorld mockCustomerService) :=
  runAlone challengeSystem challengeAnswers (bindInit "U-1" "S-1" none none) world

def afterGuess (world : BindingWorld mockCustomerService) :
    Option (Except Exn BindResult × BindingWorld mockCustomerService) :=
  runAlone challengeSystem challengeAnswers
    (bind sampleCipher "U-1" "S-1" wrongSecret none none ⟨firstIv, "1"⟩) world

section Samples

variable {history : List LimiterEntry} {world : BindingWorld mockCustomerService}

theorem BindRun.inits (run : SampleRun history world) (ends : (afterInit world).isSome = true) :
    SampleRun history ((afterInit world).get ends).2 :=
  .bindInit run "U-1" "S-1" none none (Option.some_get ends).symm

theorem BindRun.guesses (run : SampleRun history world)
    (ends : (afterGuess world).isSome = true)
    (wrong : tellsWrong challengeSystem challengeAnswers world "U-1" "S-1" wrongSecret = true) :
    SampleRun (history ++ [⟨world.now, sampleFailure⟩]) ((afterGuess world).get ends).2 := by
  have guessed := BindRun.bind run "U-1" "S-1" wrongSecret none none ⟨firstIv, "1"⟩ (by decide)
    (Option.some_get ends).symm
  rw [wrong] at guessed
  exact guessed

theorem BindRun.waits (run : SampleRun history world) (millis : Nat) :
    SampleRun history { world with now := world.now + millis } :=
  .between run (.tick millis) rfl

theorem BindRun.relabel {other : List LimiterEntry} (run : SampleRun history world)
    (same : history = other) : SampleRun other world := by
  subst same
  exact run

end Samples

def threeFailures : List LimiterEntry :=
  [⟨0, sampleFailure⟩, ⟨60000, sampleFailure⟩, ⟨120000, sampleFailure⟩]

theorem three_failures : ∃ world, SampleRun ([] ++ threeFailures) world ∧ world.now = 120000 := by
  have began : SampleRun [] (freshBinding 0) := .start
  have inited := began.inits (by decide +kernel)
  have first := inited.guesses (by decide +kernel) (by decide +kernel)
  have second := (first.waits 60000).guesses (by decide +kernel) (by decide +kernel)
  have third : SampleRun ([] ++ threeFailures) _ :=
    ((second.waits 60000).guesses (by decide +kernel) (by decide +kernel)).relabel
      (by decide +kernel)
  exact ⟨_, third, by decide +kernel⟩

theorem fails_threeFailures :
    (threeFailures.filter (LimiterEntry.fails (.userRef "U-1" "REF-001"))).map LimiterEntry.now =
      0 :: ([60000] ++ [120000]) := by
  decide

theorem fresh_of_nothing {key : LockoutKey} (first : Nat) (window : FailureWindow)
    (counted : (lockouts [] key).window = some window) :
    window.since + key.rule.window ≤ first := by
  cases counted

/-- Three wrong secrets within two minutes lock the user out of the reference. -/
theorem window_ceiling_thrice : ∃ world, SampleRun ([] ++ threeFailures) world ∧
    world.view memoryBinding.backend (userLockKey "U-1" "REF-001") =
      some ⟨.num 1, some 1020000⟩ := by
  obtain ⟨world, run, now⟩ := three_failures
  have plain : ':' ∉ "U-1".toList := by decide
  have lasts : world.now ≤ 120000 + (LockoutKey.userRef "U-1" "REF-001").rule.lock := by
    rw [now]
    exact Nat.le_add_right _ _
  have locked := window_ceiling mockCustomerService sampleCipher memoryBinding
    (fun _ => ⟨rfl, rfl⟩) run (.userRef "U-1" "REF-001") plain fails_threeFailures
    (fresh_of_nothing 0) (by decide) rfl (by decide) lasts
  exact ⟨world, run, locked.1⟩

theorem window_refusals_le_thrice : ∃ world, SampleRun ([] ++ threeFailures) world ∧
    [0, 60000, 120000].length ≤ (LockoutKey.userRef "U-1" "REF-001").rule.limit := by
  obtain ⟨world, run, -⟩ := three_failures
  exact ⟨world, run, window_refusals_le mockCustomerService sampleCipher memoryBinding
    (fun _ => ⟨rfl, rfl⟩) run (.userRef "U-1" "REF-001") fails_threeFailures (fresh_of_nothing 0)
    (by decide) (by decide)⟩

/-- Three wrong secrets within three seconds, of which the first ends a window, lock nobody out. -/
theorem interval_unlocked : ∃ world,
    SampleRun [⟨0, sampleFailure⟩, ⟨899000, sampleFailure⟩, ⟨901000, sampleFailure⟩,
      ⟨902000, sampleFailure⟩] world ∧
    world.view memoryBinding.backend (userLockKey "U-1" "REF-001") = none := by
  have began : SampleRun [] (freshBinding 0) := .start
  have first := (began.inits (by decide +kernel)).guesses (by decide +kernel) (by decide +kernel)
  have again := (first.waits 899000).inits (by decide +kernel)
  have second := again.guesses (by decide +kernel) (by decide +kernel)
  have third := (second.waits 2000).guesses (by decide +kernel) (by decide +kernel)
  have fourth : SampleRun [⟨0, sampleFailure⟩, ⟨899000, sampleFailure⟩, ⟨901000, sampleFailure⟩,
      ⟨902000, sampleFailure⟩] _ :=
    ((third.waits 1000).guesses (by decide +kernel) (by decide +kernel)).relabel
      (by decide +kernel)
  exact ⟨_, fourth, by decide +kernel⟩

def guessesReference : BindingCall :=
  .bind "U-1" "S-1" wrongSecret none none ⟨firstIv, "1"⟩

/-- How many secrets for a reference were wrong. -/
def wrongVerdicts (trace : BindingTrace mockCustomerService) (customerRef : String) : Nat :=
  trace.countP fun entry =>
    match entry.event with
    | .answered (.inr (.client (.verify request))) (.ok verdict) =>
        request.customerRef = customerRef && !verdict.verified
    | _ => false

/-- Each call finds no lock, and then each secret is judged. -/
def guessesAtOnce : List BindingMove :=
  arrives 0 (.bindInit "U-1" "S-1" none none) 9 ++ arrives 1 guessesReference 6 ++
    arrives 2 guessesReference 6 ++ arrives 3 guessesReference 6 ++ arrives 4 guessesReference 6

/-- Four wrong secrets of one user for one reference, and no lock. -/
theorem refusals_at_once : ∃ p,
    Reachable (mockBinding memoryBinding) (freshBinding 0) p ∧
      wrongVerdicts p.snapshot.trace "REF-001" = 4 ∧
      (World.view memoryBinding.backend p.snapshot.state
        (userLockKey "U-1" "REF-001")).isNone = true :=
  exists_reachable _ _ challengeAnswers guessesAtOnce (by decide +kernel)

end SelfService
