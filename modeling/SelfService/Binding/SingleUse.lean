/-
One init result, one binding.

`bind` reads what `bindInit` stored at its start and deletes it near its end,
and a deletion that Redis refuses is only logged.  So one result serves several
binds that overlap; where every call that succeeds reads after the one before
it has deleted, each of them has a result of its own.
-/

import SelfService.Binding.BindingProvenance

namespace SelfService

open Data EventLoop BindingService BindingRateLimiter

variable {client : CustomerServiceClient}

/-! ### What is spent when -/

def succeeded : Except Exn Resolution → Bool
  | .ok (.value result) => result.field "bound" = .bool true
  | _ => false

/-- A call that ended with a binding. -/
structure Success where
  tid : Nat
  sessionId : String
  registers : Bool
  deriving DecidableEq

def bindingOf (entry : BindingTraceEntry client) : Option Success :=
  match entry.event with
  | .finished (.inr (.bind _ sessionId _ _ _ _)) result =>
      if succeeded result then some ⟨entry.tid, sessionId, false⟩ else none
  | .finished (.inr (.bindRegister _ sessionId _ _ _ _)) result =>
      if succeeded result then some ⟨entry.tid, sessionId, true⟩ else none
  | _ => none

namespace Success

variable (success : Success) (trace : BindingTrace client)

def reads (entry : BindingTraceEntry client) : Bool :=
  match entry.event with
  | .answered (.inl (.cache (.get key))) _ =>
      entry.tid = success.tid && key = initKey success.sessionId
  | _ => false

def deletes (entry : BindingTraceEntry client) : Bool :=
  match entry.event with
  | .answered (.inl (.cache (.delete key))) _ =>
      entry.tid = success.tid && key = initKey success.sessionId
  | _ => false

/-- The deletion took effect. -/
def clears (entry : BindingTraceEntry client) : Bool :=
  match entry.event with
  | .answered (.inl (.cache (.delete key))) reply =>
      entry.tid = success.tid && key = initKey success.sessionId && reply.applied
  | _ => false

def readAt : Nat := trace.findIdx success.reads

def deletedAt : Nat := trace.findIdx success.deletes

/-- A bind takes the result it reads, a registration the one it deletes. -/
def takenAt : Nat := if success.registers then success.deletedAt trace else success.readAt trace

end Success

/-- A bindInit of the session runs in this thread. -/
def initiates (trace : BindingTrace client) (sessionId : String) (tid : Nat) : Bool :=
  trace.any fun entry =>
    match entry.event with
    | .started (.inr (.bindInit _ started _ _)) => entry.tid = tid && started = sessionId
    | _ => false

/-- A bindInit of the session stored its result. -/
def storesInit (trace : BindingTrace client) (sessionId : String)
    (entry : BindingTraceEntry client) : Bool :=
  match entry.event with
  | .answered (.inl (.cache (.set key _ _))) reply =>
      key = initKey sessionId && reply.applied && initiates trace sessionId entry.tid
  | _ => false

/-- The results of a session are numbered as they are stored; this one is the last at `index`. -/
def pending (trace : BindingTrace client) (sessionId : String) (index : Nat) : Nat :=
  (trace.take index).countP (storesInit trace sessionId)

/-- Two calls of one session succeeded: `second` is a bind, and it deleted after `first` did. -/
def Successive (trace : BindingTrace client) (first second : Success) : Prop :=
  second.registers = false ∧ first.tid ≠ second.tid ∧ first.sessionId = second.sessionId ∧
    first.deletedAt trace < second.deletedAt trace

instance (trace : BindingTrace client) (first second : Success) :
    Decidable (Successive trace first second) :=
  inferInstanceAs (Decidable (_ ∧ _))

/-- No bind succeeds on a result on which another call has succeeded. -/
def SingleUse (trace : BindingTrace client) : Prop :=
  ∀ first ∈ trace.filterMap bindingOf, ∀ second ∈ trace.filterMap bindingOf,
    Successive trace first second →
      pending trace second.sessionId (first.takenAt trace) ≠
        pending trace second.sessionId (second.readAt trace)

/-- A bind that succeeds reads the result after the call before it has deleted what it took. -/
def InTurn (trace : BindingTrace client) : Prop :=
  ∀ first ∈ trace.filterMap bindingOf, ∀ second ∈ trace.filterMap bindingOf,
    Successive trace first second →
      first.deletedAt trace < second.readAt trace ∧
        (trace.find? first.deletes).any first.clears = true

instance (trace : BindingTrace client) : Decidable (SingleUse trace) :=
  inferInstanceAs (Decidable (∀ _ ∈ _, ∀ _ ∈ _, _ → _))

instance (trace : BindingTrace client) : Decidable (InTurn trace) :=
  inferInstanceAs (Decidable (∀ _ ∈ _, ∀ _ ∈ _, _ → _))

/-! ### What a call that succeeds has done -/

/-- The call has read an init result that offers something. -/
def Chose (sessionId : String) (tid : Nat) (past : BindingTrace client) : Prop :=
  ∃ init, allowed init ≠ [] ∧
    Saw past tid (.answered (.inl (.cache (.get (initKey sessionId)))) (.ok init))

/-- The call has deleted the init result, and has read it unless it registers. -/
structure Paid (sessionId : String) (registers : Bool) (tid : Nat) (past : BindingTrace client) :
    Prop where
  deleted : ∃ reply, Saw past tid (.answered (.inl (.cache (.delete (initKey sessionId)))) reply)
  chose : registers = false → Chose sessionId tid past

/-- An init result is read before anything else is done, and who succeeds has paid. -/
def PayLaw (sessionId : String) (registers : Bool) (past : BindingTrace client)
    (entry : BindingTraceEntry client) : Prop :=
  match entry.event with
  | .answered (.inl (.cache (.get key))) _ =>
      key = initKey sessionId → ∀ earlier ∈ past, ∃ call, earlier.event = .started call
  | .finished _ result => succeeded result = true → Paid sessionId registers entry.tid past
  | _ => True

/-- Not the lookup of an init result. -/
def Skips (request : PortRequest ⊕ BindingRequest) : Prop :=
  ∀ sessionId, request ≠ .inl (.cache (.get (initKey sessionId)))

theorem payLaw_of_skips {sessionId : String} {registers : Bool} {past : BindingTrace client}
    {tid time : Nat} {request : PortRequest ⊕ BindingRequest}
    {answer : (portSignature (binding client)).Ans request} (skips : Skips request) :
    PayLaw sessionId registers past ⟨tid, time, .answered request answer⟩ := by
  unfold PayLaw
  split
  · rename_i key reply event
    cases event
    rintro rfl
    exact absurd rfl (skips sessionId)
  · rename_i event
    cases event
  · trivial

theorem Consults.skips {α : Type} {task : BindingTask client α} (consults : Consults task) :
    task.Asks Skips fun _ => True := by
  apply consults.weaken
  rintro _ ⟨request⟩ sessionId same
  cases same

theorem Limits.skips {α : Type} {task : BindingTask client α} (limits : Limits task) :
    task.Asks Skips fun _ => True := by
  apply limits.weaken
  rintro _ issued sessionId same
  cases issued with
  | check ceiling kind =>
      simp only [Sum.inl.injEq, PortRequest.cache.injEq, CacheCommand.get.injEq] at same
      exact ne_of_family kind.family_lockKey (family_initKey sessionId) (by decide) same
  | read ceiling kind =>
      simp only [Sum.inl.injEq, PortRequest.cache.injEq, CacheCommand.get.injEq] at same
      exact ne_of_family kind.family_failKey (family_initKey sessionId) (by decide) same
  | _ => cases same

theorem skips_warm (userId customerRef : String) (values : VerifiedValues) :
    (warm userId customerRef values : BindingTask client Unit).Asks Skips fun _ => True := by
  apply Task.Asks.bind
  · exact (asks_set fun sessionId same => nomatch same).attempt
  · exact fun _ => trivial

section Walk

variable {aes : AesGcm} {wiring : Wiring} {environment : CacheEnvironment} {tid : Nat}
  {sessionId : String} {registers : Bool} {α : Type} {state : BindingWorld client}
  {past : BindingTrace client}

/-- From here on the task obeys the law, and has paid when it ends with a binding. -/
abbrev Pays (aes : AesGcm) (wiring : Wiring) (environment : CacheEnvironment) (tid : Nat)
    (sessionId : String) (registers : Bool) (task : BindingTask client BindResult)
    (state : BindingWorld client) (past : BindingTrace client) : Prop :=
  Obeys (bindingSystem client aes wiring environment) tid (PayLaw sessionId registers)
    (fun result _ all => ∀ bound, result = .ok bound → bound.bound = true →
      Paid sessionId registers tid all) task state past

theorem pays_bind {task : BindingTask client α} {rest : α → BindingTask client BindResult}
    (skips : task.Asks Skips fun _ => True)
    (next : ∀ value last all, past <+: all →
      Pays aes wiring environment tid sessionId registers (rest value) last all) :
    Pays aes wiring environment tid sessionId registers (task >>= rest) state past := by
  apply skips.obeys_bind
  · exact fun _ _ _ _ => payLaw_of_skips
  · exact fun _ _ _ _ => trivial
  · exact fun _ _ _ _ _ failed => nomatch failed
  · exact fun value last all adds => next value last all adds.grown

theorem pays_fail (error : Exn) :
    Pays aes wiring environment tid sessionId registers (.fail error) state past :=
  fun _ failed => nomatch failed

theorem Chose.mono {all : BindingTrace client} (grown : past <+: all)
    (chose : Chose sessionId tid past) : Chose sessionId tid all := by
  obtain ⟨init, offers, time, member⟩ := chose
  exact ⟨init, offers, time, grown.subset member⟩

/-- The init result is deleted, and nothing that follows can take that back. -/
theorem pays_consume {entry : BindingAuditEntry} {userId customerRef : String}
    {values : VerifiedValues} {result : BindResult}
    (chose : registers = false → Chose sessionId tid past) :
    Pays aes wiring environment tid sessionId registers (do
      CacheService.delete (initKey sessionId)
      writeAudit entry
      warm userId customerRef values
      return result) state past := by
  intro reply before after resumed performed
  refine ⟨trivial, ?_⟩
  apply pays_bind (consults_writeAudit _).skips
  intro _ last all grown
  apply pays_bind (skips_warm _ _ _)
  intro _ last' all' longer bound _ _
  have onwards := grown.trans longer
  constructor
  · exact ⟨reply, _, onwards.subset (List.mem_append_right past List.mem_cons_self)⟩
  · exact fun binds => (chose binds).mono ((List.prefix_append past _).trans onwards)

theorem pays_complete {userId : String} {body : BindBody} {deviceInfo ip : Option String}
    {draws : Draws} (chose : Chose sessionId tid past) :
    Pays aes wiring environment tid sessionId registers
      (complete aes userId sessionId body deviceInfo ip draws) state past := by
  apply pays_bind (consults_profile _).skips
  intro profile world all grown
  change Pays aes wiring environment tid sessionId registers
    (upsertVerified userId body.customerRef _ draws.rowId >>= _) world all
  apply pays_bind (consults_upsertVerified _ _ _ _).skips
  intro _ last all' longer
  apply pays_bind (limits_clearFailures _ _).skips
  intro _ last all'' longest
  exact pays_consume fun _ => chose.mono (grown.trans (longer.trans longest))

theorem pays_refuse {userId : String} {body : BindBody} {deviceInfo ip : Option String} :
    Pays aes wiring environment tid sessionId registers (refuse userId body deviceInfo ip) state
      past := by
  apply pays_bind (limits_recordFailure _ _).skips
  intro fail last all _
  simp only
  split
  · exact pays_bind (consults_writeAudit _).skips fun _ _ _ _ => pays_fail _
  · apply pays_bind (consults_writeAudit _).skips
    rintro _ last all _ bound ⟨rfl⟩ ⟨⟩

theorem pays_challenge {userId : String} {body : BindBody} {deviceInfo ip : Option String}
    {draws : Draws} (chose : Chose sessionId tid past) :
    Pays aes wiring environment tid sessionId registers
      (challenge aes userId sessionId body deviceInfo ip draws) state past := by
  apply pays_bind (limits_checkLocked _ _).skips
  intro lock last all grown
  simp only
  split
  · exact pays_bind (consults_writeAudit _).skips fun _ _ _ _ => pays_fail _
  · apply pays_bind (consults_verify _).skips
    intro verdict last all' longer
    split
    · exact pays_complete (chose.mono (grown.trans longer))
    · exact pays_refuse

theorem pays_of_bind {userId : String} {body : BindBody} {deviceInfo ip : Option String}
    {draws : Draws} (fresh : ∀ earlier ∈ past, ∃ call, earlier.event = .started call) :
    Pays aes wiring environment tid sessionId registers
      (bind aes userId sessionId body deviceInfo ip draws) state past := by
  have turnedDown (entry : BindingAuditEntry) (error : Exn) (last : BindingWorld client)
      (all : BindingTrace client) : Pays aes wiring environment tid sessionId registers
        (writeAudit entry >>= fun _ => .fail error) last all :=
    pays_bind (consults_writeAudit entry).skips fun _ _ _ _ => pays_fail error
  apply obeys_get
  · exact fun _ _ _ => fresh
  · intro reply time last
    cases reply with
    | failed applied reason => exact turnedDown _ _ _ _
    | ok init =>
        change Pays aes wiring environment tid sessionId registers
          (if init.truthy then _ else _) _ _
        split
        · split
          · exact pays_fail _
          · rename_i refs read
            split
            · rename_i chosen
              apply pays_challenge
              refine ⟨init, ?_, time, List.mem_append_right past List.mem_cons_self⟩
              unfold allowed
              rw [show allowedRefs init = .ok refs from read]
              exact List.ne_nil_of_mem chosen
            · exact turnedDown _ _ _ _
        · exact turnedDown _ _ _ _

theorem pays_bindRegister {userId : String} {request : CreateCustomerRequest}
    {deviceInfo ip : Option String} {draws : Draws} :
    Pays aes wiring environment tid sessionId true
      (bindRegister aes userId sessionId request deviceInfo ip draws) state past := by
  apply pays_bind (consults_getSessionPhone userId).skips
  intro phone last all _
  cases phone with
  | none => exact pays_fail _
  | some phone =>
      apply pays_bind (consults_resolve phone).skips
      intro resolved last all' _
      simp only
      split
      · apply pays_bind (consults_create phone request).skips.attempt
        intro outcome world all'' _
        split
        · rename_i created
          change Pays aes wiring environment tid sessionId true
            (upsertVerified userId created.customerRef _ draws.rowId >>= _) world all''
          apply pays_bind (consults_upsertVerified _ _ _ _).skips
          intro _ last _ _
          exact pays_consume fun binds => nomatch binds
        · exact pays_bind (consults_writeAudit _).skips fun _ _ _ _ => pays_fail _
        · exact pays_fail _
      · exact pays_bind (consults_writeAudit _).skips fun _ _ _ _ => pays_fail _

/-- What is answered to the caller tells whether the call bound. -/
theorem pays_converted {task : BindingTask client BindResult} {call : BindingCall}
    (pays : Pays aes wiring environment tid sessionId registers task state past) :
    Obeys (bindingSystem client aes wiring environment) tid (PayLaw sessionId registers)
      (fun result _ all => ∀ time,
        PayLaw sessionId registers all ⟨tid, time, .finished (.inr call) result⟩)
      (task >>= fun result => .done (Resolution.value result.toJs)) state past := by
  rw [obeys_bind]
  apply pays.mono
  intro result last all paid
  cases result with
  | error error => exact fun _ failed => nomatch failed
  | ok result =>
      intro time bound
      apply paid result rfl
      obtain ⟨value, customerId⟩ := result
      cases value with
      | true => rfl
      | false => exact absurd bound (by simp [succeeded, BindResult.toJs])

theorem bind_pays {userId : String} {body : BindBody} {deviceInfo ip : Option String}
    {draws : Draws} :
    Lawful (bindingSystem client aes wiring environment) (PayLaw sessionId false) tid
      (.inr (.bind userId sessionId body deviceInfo ip draws)) where
  starts _ := trivial
  obeys _ _ := pays_converted (pays_of_bind fun _ member =>
    ⟨_, congrArg Entry.event (List.mem_singleton.mp member)⟩)

theorem bindRegister_pays {userId : String} {request : CreateCustomerRequest}
    {deviceInfo ip : Option String} {draws : Draws} :
    Lawful (bindingSystem client aes wiring environment) (PayLaw sessionId true) tid
      (.inr (.bindRegister userId sessionId request deviceInfo ip draws)) where
  starts _ := trivial
  obeys _ _ := pays_converted pays_bindRegister

end Walk

/-! ### Where it was done -/

section Places

variable {aes : AesGcm} {wiring : Wiring} {environment : CacheEnvironment}
  {world : BindingWorld client} {p : BindingPool client} {success : Success}

theorem lawful_of_success
    (reached : Reachable (bindingSystem client aes wiring environment) world p)
    (member : success ∈ p.snapshot.trace.filterMap bindingOf) :
    ∃ call before, before <+: p.snapshot.trace ∧ Saw before success.tid (.started (.inr call)) ∧
      Lawful (bindingSystem client aes wiring environment)
        (PayLaw success.sessionId success.registers) success.tid (.inr call) ∧
      Paid success.sessionId success.registers success.tid before := by
  obtain ⟨⟨tid, time, event⟩, inTrace, same⟩ := List.mem_filterMap.mp member
  obtain ⟨before, after, split⟩ := List.append_of_mem inTrace
  have ended {call : BindingCall} {result : Except Exn Resolution} {sessionId : String}
      {registers : Bool} (finished : event = .finished (.inr call) result)
      (bound : succeeded result = true)
      (lawful : Lawful (bindingSystem client aes wiring environment) (PayLaw sessionId registers)
        tid (.inr call)) :
      ∃ call before, before <+: p.snapshot.trace ∧ Saw before tid (.started (.inr call)) ∧
        Lawful (bindingSystem client aes wiring environment) (PayLaw sessionId registers) tid
          (.inr call) ∧
        Paid sessionId registers tid before := by
    subst finished
    have began := reached.finished_began split
    obtain ⟨⟨reply, deleted⟩, chose⟩ := reached.lawful_call split began lawful bound
    refine ⟨call, before, ⟨_, split.symm⟩, began, lawful, ⟨reply, saw_of_own deleted⟩, ?_⟩
    intro binds
    obtain ⟨init, offers, saw⟩ := chose binds
    exact ⟨init, offers, saw_of_own saw⟩
  unfold bindingOf at same
  split at same
  · rename_i userId sessionId body deviceInfo ip draws result finished
    obtain ⟨bound, there⟩ := Option.ite_none_right_eq_some.mp same
    cases there
    exact ended finished bound bind_pays
  · rename_i userId sessionId request deviceInfo ip draws result finished
    obtain ⟨bound, there⟩ := Option.ite_none_right_eq_some.mp same
    cases there
    exact ended finished bound bindRegister_pays
  · cases same

/-- Before a call that succeeds reads the init result it has done nothing. -/
theorem fresh_of_read (reached : Reachable (bindingSystem client aes wiring environment) world p)
    (member : success ∈ p.snapshot.trace.filterMap bindingOf) {before after : BindingTrace client}
    {time : Nat} {reply : Reply JsValue}
    (split : p.snapshot.trace = before ++
      ⟨success.tid, time, .answered (.inl (.cache (.get (initKey success.sessionId)))) reply⟩ ::
        after) {entry : BindingTraceEntry client} (earlier : entry ∈ before)
    (own : entry.tid = success.tid) : ∃ call, entry.event = .started call := by
  obtain ⟨call, past, grown, ⟨moment, began⟩, lawful, -⟩ := lawful_of_success reached member
  have lawfully (other) (saw : p.snapshot.Saw success.tid (.started other)) :
      Lawful (bindingSystem client aes wiring environment)
        (PayLaw success.sessionId success.registers) success.tid other := by
    rw [reached.started_unique saw ⟨moment, grown.subset began⟩]
    exact lawful
  exact reached.lawful split lawfully rfl entry (mem_ownEntries.mpr ⟨earlier, own⟩)

theorem event_of_reads {entry : BindingTraceEntry client} (reads : success.reads entry = true) :
    ∃ reply, entry = ⟨success.tid, entry.time,
      .answered (.inl (.cache (.get (initKey success.sessionId)))) reply⟩ := by
  obtain ⟨tid, time, event⟩ := entry
  unfold Success.reads at reads
  split at reads
  · rename_i key reply same
    obtain ⟨mine, there⟩ := Bool.and_eq_true_iff.mp reads
    obtain rfl : tid = success.tid := of_decide_eq_true mine
    obtain rfl : key = initKey success.sessionId := of_decide_eq_true there
    cases same
    exact ⟨reply, rfl⟩
  · cases reads

theorem event_of_deletes {entry : BindingTraceEntry client}
    (deletes : success.deletes entry = true) :
    ∃ reply, entry = ⟨success.tid, entry.time,
      .answered (.inl (.cache (.delete (initKey success.sessionId)))) reply⟩ := by
  obtain ⟨tid, time, event⟩ := entry
  unfold Success.deletes at deletes
  split at deletes
  · rename_i key reply same
    obtain ⟨mine, there⟩ := Bool.and_eq_true_iff.mp deletes
    obtain rfl : tid = success.tid := of_decide_eq_true mine
    obtain rfl : key = initKey success.sessionId := of_decide_eq_true there
    cases same
    exact ⟨reply, rfl⟩
  · cases deletes

/-- A bind that succeeds has read an init result that offers something, at `readAt`. -/
theorem read_of_success (reached : Reachable (bindingSystem client aes wiring environment) world p)
    (member : success ∈ p.snapshot.trace.filterMap bindingOf) (binds : success.registers = false) :
    ∃ before after time init, p.snapshot.trace = before ++
        ⟨success.tid, time, .answered (.inl (.cache (.get (initKey success.sessionId))))
          (.ok init)⟩ :: after ∧
      success.readAt p.snapshot.trace = before.length ∧ allowed init ≠ [] := by
  obtain ⟨call, past, grown, began, lawful, -, chose⟩ := lawful_of_success reached member
  obtain ⟨init, offers, time, saw⟩ := chose binds
  have inTrace := grown.subset saw
  have passes : success.reads (⟨success.tid, time,
      .answered (.inl (.cache (.get (initKey success.sessionId)))) (.ok init)⟩ :
        BindingTraceEntry client) = true := by
    simp [Success.reads]
  obtain ⟨before, found, after, split, reads, unread, index, -⟩ := split_of_findIdx inTrace passes
  obtain ⟨reply, same⟩ := event_of_reads reads
  refine ⟨before, after, time, init, ?_, index, offers⟩
  rw [split]
  congr 2
  obtain ⟨early, late, split'⟩ := List.append_of_mem inTrace
  rcases split_order (split.symm.trans split') with ⟨-, here⟩ | ⟨middle, later⟩ | ⟨middle, later⟩
  · exact here
  · have earlier : found ∈ early := later ▸ List.mem_append_right before List.mem_cons_self
    obtain ⟨began, started⟩ := fresh_of_read reached member split' earlier (by rw [same])
    rw [same] at started
    cases started
  · have missed := unread _ (later ▸ List.mem_append_right early List.mem_cons_self)
    simp [Success.reads] at missed

/-- A call that succeeds has deleted the init result, at `deletedAt`. -/
theorem deleted_of_success
    (reached : Reachable (bindingSystem client aes wiring environment) world p)
    (member : success ∈ p.snapshot.trace.filterMap bindingOf) :
    ∃ before after time reply, p.snapshot.trace = before ++
        ⟨success.tid, time, .answered (.inl (.cache (.delete (initKey success.sessionId))))
          reply⟩ :: after ∧
      success.deletedAt p.snapshot.trace = before.length ∧
      (p.snapshot.trace.find? success.deletes).any success.clears = reply.applied := by
  obtain ⟨call, past, grown, began, lawful, ⟨reply, time, saw⟩, -⟩ :=
    lawful_of_success reached member
  have passes : success.deletes (⟨success.tid, time,
      .answered (.inl (.cache (.delete (initKey success.sessionId)))) reply⟩ :
        BindingTraceEntry client) = true := by
    simp [Success.deletes]
  obtain ⟨before, found, after, split, deletes, -, index, there⟩ :=
    split_of_findIdx (grown.subset saw) passes
  obtain ⟨reply, same⟩ := event_of_deletes deletes
  refine ⟨before, after, found.time, reply, same ▸ split, index, ?_⟩
  rw [there, Option.any_some, same]
  simp [Success.clears]

/-- What a call takes is taken before it is deleted. -/
theorem takenAt_le (reached : Reachable (bindingSystem client aes wiring environment) world p)
    (member : success ∈ p.snapshot.trace.filterMap bindingOf) :
    success.takenAt p.snapshot.trace ≤ success.deletedAt p.snapshot.trace := by
  unfold Success.takenAt
  split
  · exact Nat.le_refl _
  · rename_i binds
    obtain ⟨before, after, time, init, split, index, -⟩ :=
      read_of_success reached member (eq_false_of_ne_true binds)
    obtain ⟨early, late, moment, reply, split', index', -⟩ := deleted_of_success reached member
    rw [index, index']
    rcases split_order (split.symm.trans split') with ⟨rfl, -⟩ | ⟨middle, rfl⟩ | ⟨middle, later⟩
    · exact Nat.le_refl _
    · simp
    · obtain ⟨began, started⟩ := fresh_of_read reached member split
        (later ▸ List.mem_append_right early List.mem_cons_self) rfl
      cases started

theorem initiates_of_saw {trace past : BindingTrace client} (grown : past <+: trace) {tid : Nat}
    {userId sessionId : String} {deviceInfo ip : Option String}
    (began : Saw past tid (.started (.inr (.bindInit userId sessionId deviceInfo ip)))) :
    initiates trace sessionId tid = true := by
  obtain ⟨time, member⟩ := began
  exact List.any_eq_true.mpr ⟨_, grown.subset member, by simp⟩

/-- What a lookup finds after a deletion, a bindInit of the session has stored since. -/
theorem stored_between (reached : Reachable (bindingSystem client aes wiring environment) world p)
    {early middle late : BindingTrace client} {tid other time moment : Nat} {sessionId : String}
    {init : JsValue} {reply : Reply Unit} (applied : reply.applied = true)
    (split : p.snapshot.trace = early ++
      ⟨other, moment, .answered (.inl (.cache (.delete (initKey sessionId)))) reply⟩ ::
        (middle ++ ⟨tid, time, .answered (.inl (.cache (.get (initKey sessionId)))) (.ok init)⟩ ::
          late))
    (offers : allowed init ≠ []) :
    ∃ entry ∈ middle, storesInit p.snapshot.trace sessionId entry = true := by
  have key : initKey sessionId = "bind:" ++ ("init:" ++ sessionId) := by
    rw [initKey, ← String.append_assoc]
    rfl
  have present : init ≠ .null := by
    rintro rfl
    exact offers rfl
  have read := split
  rw [← List.cons_append, ← List.append_assoc] at read
  have clear : Clear (early ++ _) := (binding_clear reached).earlier ⟨_, read.symm⟩
  have recalls := ((binding_chronicle reached).registers.lookups _ _ late read
    (clear.unblurred _)).resolve_left present
  obtain ⟨left, there, -, same⟩ := held_of_recalled recalls.symm present
  have emptied : touchOf (bindingDeployment client wiring environment)
      (getFullKey wiring.backend.options (initKey sessionId))
      (⟨other, moment, .answered (.inl (.cache (.delete (initKey sessionId)))) reply⟩ :
        BindingTraceEntry client) = some none :=
    if_pos ⟨applied, rfl⟩
  obtain ⟨before, entry, after, rfl, touched⟩ := left_since emptied there
  refine ⟨entry, List.mem_append_right before List.mem_cons_self, ?_⟩
  rw [List.append_assoc, List.cons_append, ← List.cons_append, ← List.append_assoc] at split
  rw [key] at touched
  obtain ⟨value, ttl, stored, wrote, took, rfl, -, call⟩ := write_of_touch reached split touched
  rw [wrote] at split
  have law := binding_lawful (fun tid call => earns_lawful call) reached split call
  have offering : allowed (wiring.backend.stored value) ≠ [] := by
    rwa [show wiring.backend.stored value = init from same]
  obtain ⟨userId, session, result, sameKey, -, -, deviceInfo, ip, -, began, -, -⟩ := law offering
  rw [← key] at sameKey wrote
  obtain rfl := initKey_injective sameKey
  have grown : early ++ _ <+: p.snapshot.trace := ⟨_, split.symm⟩
  have initiated := initiates_of_saw grown (saw_of_own began)
  rw [wrote, storesInit]
  simp [took, initiated]

theorem pending_mono {trace : BindingTrace client} {sessionId : String} {first second : Nat}
    (order : first ≤ second) : pending trace sessionId first ≤ pending trace sessionId second :=
  List.Sublist.countP_le (List.take_sublist_take_left order)

theorem pending_split {trace before after : BindingTrace client} {sessionId : String}
    (split : trace = before ++ after) :
    pending trace sessionId before.length = before.countP (storesInit trace sessionId) := by
  have part : trace.take before.length = before := by
    rw [split, List.take_left]
  rw [pending, part]

/-- In every run in which successful calls of one session take turns, every bind that succeeds
has an init result of its own. -/
theorem single_use (client : CustomerServiceClient) (aes : AesGcm) (wiring : Wiring)
    (environment : CacheEnvironment) (world : BindingWorld client) (p : BindingPool client)
    (reached : Reachable (bindingSystem client aes wiring environment) world p)
    (inTurn : InTurn p.snapshot.trace) : SingleUse p.snapshot.trace := by
  intro first one second other successive
  obtain ⟨order, cleared⟩ := inTurn first one second other successive
  obtain ⟨binds, -, session, -⟩ := successive
  obtain ⟨early, late, moment, reply, deleted, deletedAt, clears⟩ := deleted_of_success reached one
  obtain ⟨before, after, time, init, read, readAt, offers⟩ := read_of_success reached other binds
  rw [clears] at cleared
  rw [deletedAt, readAt] at order
  rcases split_order (deleted.symm.trans read) with ⟨rfl, -⟩ | ⟨middle, rfl⟩ | ⟨middle, rfl⟩
  · exact absurd order (Nat.lt_irrefl _)
  · have whole := read
    rw [List.append_assoc, List.cons_append, session] at read
    obtain ⟨entry, member, stores⟩ := stored_between reached cleared read offers
    apply Nat.ne_of_lt
    calc pending p.snapshot.trace second.sessionId (first.takenAt p.snapshot.trace)
        ≤ pending p.snapshot.trace second.sessionId (first.deletedAt p.snapshot.trace) :=
          pending_mono (takenAt_le reached one)
      _ < pending p.snapshot.trace second.sessionId (second.readAt p.snapshot.trace) := by
          rw [deletedAt, readAt, pending_split deleted, pending_split whole,
            List.countP_append, List.countP_cons]
          have counted := List.countP_pos_iff.mpr ⟨entry, member, stores⟩
          omega
  · rw [List.length_append] at order
    omega

end Places

/-! ### A phone with two customers -/

def bindsThird : BindingCall :=
  .bind "U-1" "S-1" ⟨"REF-003", .lastInvoiceAmount, "312000"⟩ none none ⟨secondIv, "1"⟩

def bindsFourth : BindingCall :=
  .bind "U-1" "S-1" ⟨"REF-004", .lastInvoiceAmount, "156000"⟩ none none ⟨firstIv, "2"⟩

def initsSession : BindingCall := .bindInit "U-1" "S-1" none none

/-- The session asks again before it binds the second customer. -/
def bindsTwice : List BindingMove :=
  arrives 0 initsSession 9 ++ arrives 1 bindsThird 30 ++ arrives 2 initsSession 9 ++
    arrives 3 bindsFourth 30

theorem single_use_asking_twice :
    ∃ p, Reachable (mockBinding memoryBinding) (freshBinding 1700000000000) p ∧
      (p.snapshot.trace.filterMap bindingOf).length = 2 ∧ SingleUse p.snapshot.trace := by
  obtain ⟨p, reached, both, inTurn⟩ : ∃ p, Reachable (mockBinding memoryBinding)
      (freshBinding 1700000000000) p ∧ (p.snapshot.trace.filterMap bindingOf).length = 2 ∧
        InTurn p.snapshot.trace :=
    exists_reachable _ _ (obliging memoryBinding.backend "+849777666555") bindsTwice
      (by decide +kernel)
  exact ⟨p, reached, both,
    single_use mockCustomerService sampleCipher memoryBinding .any _ p reached inTurn⟩

/-- The second bind runs from start to end while the first waits for the lockout check. -/
def bindsBetween : List BindingMove :=
  arrives 0 initsSession 9 ++ arrives 1 bindsThird 2 ++ arrives 2 bindsFourth 30 ++ turns 1 30

/-- One init result binds two customers. -/
theorem one_result_binds_twice :
    ∃ p, Reachable (mockBinding memoryBinding) (freshBinding 1700000000000) p ∧
      (p.snapshot.trace.filterMap bindingOf).length = 2 ∧ ¬ SingleUse p.snapshot.trace :=
  exists_reachable _ _ (obliging memoryBinding.backend "+849777666555") bindsBetween
    (by decide +kernel)

end SelfService
