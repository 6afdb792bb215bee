/-
No event leaves the table unpublished.

Whatever statements fail and whichever processors stop, an entry that was added
stays in the table as it was written, until it has been published, marked with the
time of its publication, and deleted by a cleanup that came a retention period later.
-/

import SelfService.EventLoop.Bystanders
import SelfService.EventLoop.Waiting
import SelfService.Outbox.Retries

namespace SelfService

open EventLoop

/-! ### What the processors ask for -/

/-- The grounds of a statement: new rows have no time of publication, an entry is marked with the
time at which it was published, and a cleanup leaves what is younger than the retention period. -/
def Founded (runtime : OutboxRuntime) (request : OutboxRequest) (s : OutboxSnapshot) : Prop :=
  match request with
  | .addMany rows => ∀ row ∈ rows, row.processedAt = none
  | .markAsProcessed _ id processedAt =>
      ∃ publisher, ⟨publisher, processedAt, .marked (.published id true)⟩ ∈ s.trace
  | .deleteProcessed _ olderThan => olderThan ≤ s.state.now - runtime.config.retentionPeriodMs
  | _ => True

section Programs

variable {runtime : OutboxRuntime} {lossy : Bool} {tid : Nat}

abbrev AsksFounded (runtime : OutboxRuntime) (lossy : Bool) (tid : Nat) {α : Type}
    (task : OutboxTask α) : Prop :=
  task.AwaitsFitting (outboxSystem runtime lossy) tid (Founded runtime)

theorem founded_done {α : Type} (value : α) : AsksFounded runtime lossy tid (.done value) :=
  fun _ _ => trivial

theorem founded_fail {α : Type} (error : Exn) :
    AsksFounded runtime lossy tid (.fail error : OutboxTask α) :=
  fun _ _ => trivial

/-- A statement that needs no grounds. -/
theorem founded_outboxAsk (request : OutboxRequest) (free : ∀ s, Founded runtime request s) :
    AsksFounded runtime lossy tid (outboxAsk request) := by
  apply awaitsFitting_of_always free
  intro reply
  cases reply with
  | ok value => exact founded_done value
  | failed applied reason => exact founded_fail _

theorem publish_founded (processor : Nat) (event : DomainEvent) :
    AsksFounded runtime lossy tid (EventBus.publish runtime processor event) := by
  unfold EventBus.publish
  split
  · exact founded_fail _
  · intro start s
    change Turns _ _ _ _ (ite _ _ _) start s
    split
    · exact trivial
    · refine ((founded_outboxAsk _ ?_).bind fun _ => founded_done ()) start s
      exact fun _ => trivial

/-- The entry is marked in the segment in which it was published. -/
theorem publishEntry_founded (processor : Nat) (id payload : String) :
    AsksFounded runtime lossy tid
      (OutboxProcessorService.publishEntry runtime processor id payload) := by
  unfold OutboxProcessorService.publishEntry
  split
  · exact founded_fail _
  · intro start s
    rw [turns_read, turns_note]
    apply ((publish_founded processor _).attempt _ _).andThen
    · exact fun _ _ _ _ => trivial
    · intro outcome start last _
      rw [turns_note]
      cases outcome with
      | error error => exact trivial
      | ok value =>
          refine ⟨⟨tid, List.mem_append_right _ (List.mem_singleton.mpr rfl)⟩, ?_⟩
          intro reply before after resumed _
          cases (reply : Reply Unit) with
          | ok done => exact trivial
          | failed applied reason => exact trivial

theorem processEntry_founded (processor : Nat) (id payload : String) :
    AsksFounded runtime lossy tid
      (OutboxProcessorService.processEntry runtime processor id payload) := by
  unfold OutboxProcessorService.processEntry
  apply (founded_outboxAsk (.markAsProcessing processor id) fun _ => trivial).bind
  intro acquired
  split
  · apply (publishEntry_founded processor id payload).attempt.bind
    intro outcome
    split
    · exact founded_done ()
    · exact founded_outboxAsk (.markAsFailed processor id _) fun _ => trivial
  · exact founded_done ()

theorem processEntries_founded (processor : Nat) (entries : List OutboxEntry) :
    AsksFounded runtime lossy tid
      (OutboxProcessorService.processEntries runtime processor entries) := by
  induction entries with
  | nil => exact founded_done ()
  | cons entry rest ih => exact (processEntry_founded _ _ _).bind fun _ => ih

theorem processBatch_founded (processor : Nat) :
    AsksFounded runtime lossy tid (OutboxProcessorService.processBatch runtime processor) := by
  unfold OutboxProcessorService.processBatch
  apply (founded_outboxAsk (.getPending processor runtime.config.batchSize) fun _ => trivial).bind
  intro entries
  split
  · exact founded_done ()
  · apply (processEntries_founded processor entries).bind
    intro _
    apply (founded_outboxAsk (.resetForRetry processor runtime.config.maxRetries)
      fun _ => trivial).bind
    exact fun _ => founded_done ()

theorem outboxBody_founded (call : OutboxCall) :
    AsksFounded runtime lossy tid (outboxBody runtime call) := by
  cases call with
  | addMany events =>
      change AsksFounded runtime lossy tid (OutboxRepository.addMany runtime events)
      unfold OutboxRepository.addMany
      split
      · exact founded_done ()
      · intro start s
        refine ⟨?_, ?_⟩
        · intro row member
          obtain ⟨event, -, rfl⟩ := List.mem_map.mp member
          rfl
        · intro reply before after resumed _
          cases (reply : Reply Unit) with
          | ok done => exact trivial
          | failed applied reason => exact trivial
  | processOutbox processor =>
      intro start s
      change Turns _ _ _ _ (ite _ _ _) start s
      split
      · exact trivial
      · apply ((processBatch_founded processor).attempt _ _).andThen
        · exact fun _ _ _ _ => trivial
        · exact fun _ _ _ _ => trivial
  | cleanupOldEntries processor =>
      intro start s
      refine ⟨Nat.le_refl _, ?_⟩
      intro reply before after resumed _
      cases (reply : Reply Nat) with
      | ok count => exact trivial
      | failed applied reason => exact trivial

end Programs

/-! ### What happens to a row -/

/-- What is written once, when the entry is added. -/
def OutboxEntry.written (row : OutboxEntry) : OutboxEntry :=
  { row with status := .pending, processedAt := none, retryCount := 0, lastError := none }

/-- The entry was published at one time and deleted a retention period later. -/
def Retired (runtime : OutboxRuntime) (trace after : OutboxTrace) (id : String) : Prop :=
  ∃ (publisher published eraser erased processor olderThan : Nat)
    (reply : Reply (OutboxRequest.deleteProcessed processor olderThan).Value),
    ⟨publisher, published, .marked (.published id true)⟩ ∈ trace ∧
      ⟨eraser, erased, .answered (.deleteProcessed processor olderThan) reply⟩ ∈ after ∧
      published ≤ olderThan ∧ olderThan ≤ erased - runtime.config.retentionPeriodMs

/-- The entry is still in the table as it was written, or it was retired. -/
def Conserved (runtime : OutboxRuntime) (s : OutboxSnapshot) (after : OutboxTrace)
    (row : OutboxEntry) : Prop :=
  (∃ kept ∈ s.state.rows, kept.id = row.id ∧ kept.written = row.written) ∨
    Retired runtime s.trace after row.id

/-- Every row that is marked names the time at which it was published. -/
def Stamped (s : OutboxSnapshot) : Prop :=
  ∀ row ∈ s.state.rows, ∀ published, row.processedAt = some published →
    ∃ publisher, ⟨publisher, published, .marked (.published row.id true)⟩ ∈ s.trace

/-- No entry that was added is lost. -/
structure LosesNothing (runtime : OutboxRuntime) (s : OutboxSnapshot) : Prop where
  stamped : Stamped s
  conserved : ∀ before tid time rows after, s.trace =
      before ++ ⟨tid, time, .answered (.addMany rows) (Reply.ok ())⟩ :: after →
    ∀ row ∈ rows, Conserved runtime s after row

section Rows

variable {runtime : OutboxRuntime} {lossy : Bool}

theorem Retired.mono {trace after later grown : OutboxTrace} {id : String}
    (retired : Retired runtime trace after id) (more : trace <+: grown) (rest : after <+: later) :
    Retired runtime grown later id := by
  obtain ⟨publisher, published, eraser, erased, processor, olderThan, reply, marked, deleted,
    order⟩ := retired
  exact ⟨publisher, published, eraser, erased, processor, olderThan, reply, more.subset marked,
    rest.subset deleted, order⟩

/-- What a statement can make of a row: it stays as it was written and keeps its mark unless it is
marked by this statement, or it is deleted because it has expired. -/
theorem row_after (request : OutboxRequest) {rows : List OutboxEntry} {row : OutboxEntry}
    (member : row ∈ rows) :
    (∃ kept ∈ effect request rows, kept.id = row.id ∧ kept.written = row.written) ∨
      ∃ processor olderThan, request = .deleteProcessed processor olderThan ∧
        expiredBefore olderThan row = true := by
  have updated {selects : OutboxEntry → Bool} {update : OutboxEntry → OutboxEntry}
      (sameId : ∀ row, (update row).id = row.id)
      (same : ∀ row, (update row).written = row.written) :
      ∃ kept ∈ updateRows selects update rows, kept.id = row.id ∧ kept.written = row.written := by
    refine ⟨if selects row then update row else row, mem_updateRows.mpr ⟨row, member, rfl⟩, ?_⟩
    split
    · exact ⟨sameId row, same row⟩
    · exact ⟨rfl, rfl⟩
  cases request with
  | addMany added => exact Or.inl ⟨row, List.mem_append_left _ member, rfl, rfl⟩
  | getPending processor limit => exact Or.inl ⟨row, member, rfl, rfl⟩
  | handle processor event handlers => exact Or.inl ⟨row, member, rfl, rfl⟩
  | markAsProcessing processor id => exact Or.inl (updated (fun _ => rfl) fun _ => rfl)
  | markAsProcessed processor id processedAt =>
      exact Or.inl (updated (fun _ => rfl) fun _ => rfl)
  | markAsFailed processor id error => exact Or.inl (updated (fun _ => rfl) fun _ => rfl)
  | resetForRetry processor maxRetries => exact Or.inl (updated (fun _ => rfl) fun _ => rfl)
  | deleteProcessed processor olderThan =>
      cases expired : expiredBefore olderThan row with
      | true => exact Or.inr ⟨processor, olderThan, rfl, expired⟩
      | false =>
          refine Or.inl ⟨row, ?_, rfl, rfl⟩
          rw [effect, List.mem_filter, expired]
          exact ⟨member, rfl⟩

/-- Where a mark comes from: from before, or from this statement. -/
theorem mark_after {request : OutboxRequest} {rows : List OutboxEntry} {row : OutboxEntry}
    {published : Nat} (unmarked : ∀ added, request = .addMany added →
      ∀ row ∈ added, row.processedAt = none)
    (member : row ∈ effect request rows) (marked : row.processedAt = some published) :
    (∃ old ∈ rows, old.id = row.id ∧ old.processedAt = some published) ∨
      ∃ processor, request = .markAsProcessed processor row.id published := by
  have updated {selects : OutboxEntry → Bool} {update : OutboxEntry → OutboxEntry}
      (there : row ∈ updateRows selects update rows) (sameId : ∀ row, (update row).id = row.id)
      (same : ∀ row, (update row).processedAt = row.processedAt) :
      ∃ old ∈ rows, old.id = row.id ∧ old.processedAt = some published := by
    obtain ⟨old, oldMember, rfl⟩ := mem_updateRows.mp there
    refine ⟨old, oldMember, ?_⟩
    split at marked
    · rename_i selected
      rw [if_pos selected]
      exact ⟨(sameId old).symm, (same old).symm.trans marked⟩
    · rename_i unselected
      rw [if_neg unselected]
      exact ⟨rfl, marked⟩
  cases request with
  | addMany added =>
      rcases List.mem_append.mp member with old | new
      · exact Or.inl ⟨row, old, rfl, marked⟩
      · rw [unmarked added rfl row new] at marked
        cases marked
  | getPending processor limit => exact Or.inl ⟨row, member, rfl, marked⟩
  | handle processor event handlers => exact Or.inl ⟨row, member, rfl, marked⟩
  | markAsProcessing processor id => exact Or.inl (updated member (fun _ => rfl) fun _ => rfl)
  | markAsFailed processor id error => exact Or.inl (updated member (fun _ => rfl) fun _ => rfl)
  | resetForRetry processor maxRetries =>
      exact Or.inl (updated member (fun _ => rfl) fun _ => rfl)
  | deleteProcessed processor olderThan =>
      exact Or.inl ⟨row, List.mem_of_mem_filter member, rfl, marked⟩
  | markAsProcessed processor id processedAt =>
      obtain ⟨old, oldMember, rfl⟩ := mem_updateRows.mp member
      split at marked
      · rename_i selected
        rw [if_pos selected]
        cases marked
        exact Or.inr ⟨processor, by rw [of_decide_eq_true selected]⟩
      · rename_i unselected
        rw [if_neg unselected]
        exact Or.inl ⟨old, oldMember, rfl, marked⟩

/-- An entry of a longer trace was there before, or is new. -/
theorem old_or_added {trace added before after : OutboxTrace} {entry : OutboxTraceEntry}
    (same : trace ++ added = before ++ entry :: after) :
    (∃ rest, trace = before ++ entry :: rest ∧ after = rest ++ added) ∨
      ∃ front, added = front ++ entry :: after := by
  rcases List.append_eq_append_iff.mp same with ⟨front, -, late⟩ | ⟨rest, early, late⟩
  · exact Or.inr ⟨front, late⟩
  · cases rest with
    | nil => exact Or.inr ⟨[], late.symm⟩
    | cons head rest =>
        obtain ⟨rfl, rfl⟩ := List.cons.inj late
        exact Or.inl ⟨rest, early, rfl⟩

variable {state : OutboxState} {p next : Pool outbox Unit} {action : Action outbox OutboxExternal}

theorem performOutbox_now {before after : OutboxState} {request : OutboxRequest}
    {reply : Reply request.Value}
    (performed : performOutbox lossy before request reply = some after) :
    after.now = before.now := by
  unfold performOutbox at performed
  split at performed
  · cases performed
  · cases reply with
    | ok value =>
        obtain ⟨-, same⟩ := Option.ite_none_right_eq_some.mp performed
        cases same
        rfl
    | failed applied reason =>
        obtain ⟨-, same⟩ := Option.ite_none_right_eq_some.mp performed
        cases applied <;> cases same <;> rfl

/-- The clock does not go back. -/
theorem now_step (reached : Reachable (outboxSystem runtime lossy) state p)
    (stepped : p.step (outboxSystem runtime lossy) action = some next) :
    p.snapshot.state.now ≤ next.snapshot.state.now := by
  have apart (call : OutboxCall) : LeavesPart OutboxState.now (outboxBody runtime call) :=
    outboxBody_leavesPart (fun _ _ => rfl) call
  have moved := ((reached.leaves apart).step apart stepped).2
  cases action with
  | call call => exact (Nat.le_of_eq moved.symm)
  | resume tid => exact (Nat.le_of_eq moved.symm)
  | answer tid request reply =>
      obtain ⟨after, performed, logged⟩ := moved
      rw [logged]
      exact Nat.le_of_eq (performOutbox_now performed).symm
  | external event =>
      have moved : outboxExternal p.snapshot.state event = some next.snapshot.state := moved
      cases event with
      | tick millis =>
          rw [← Option.some.inj moved]
          exact Nat.le_add_right _ _
      | subscribe subscription =>
          rw [← Option.some.inj moved]
      | stop processor =>
          rw [← Option.some.inj moved]

/-- What is waited for is still founded when it is answered. -/
theorem founded_reachable (reached : Reachable (outboxSystem runtime lossy) state p)
    {request : OutboxRequest} (waits : p.Awaits request) : Founded runtime request p.snapshot := by
  apply reached.awaits_fitting (fun tid call => outboxBody_founded call) _ _ waits
  · intro tid request s founded
    cases request with
    | markAsProcessed processor id processedAt =>
        obtain ⟨publisher, marked⟩ := founded
        exact ⟨publisher, (mem_ownEntries.mp marked).1⟩
    | _ => exact founded
  · intro q next action request reached stepped founded
    cases request with
    | markAsProcessed processor id processedAt =>
        obtain ⟨publisher, marked⟩ := founded
        exact ⟨publisher, (Pool.step_grown stepped).subset marked⟩
    | deleteProcessed processor olderThan =>
        exact founded.trans (Nat.sub_le_sub_right (now_step reached stepped) _)
    | _ => exact founded

/-! ### Every run -/

/-- A step that leaves the rows alone and answers nothing. -/
theorem LosesNothing.silent (hold : LosesNothing runtime p.snapshot)
    (silent : AddsNoAnswer p.snapshot.trace next.snapshot.trace)
    (same : next.snapshot.state.rows = p.snapshot.state.rows) :
    LosesNothing runtime next.snapshot := by
  obtain ⟨added, grown, unanswered⟩ := silent
  have more : p.snapshot.trace <+: next.snapshot.trace := ⟨added, grown.symm⟩
  constructor
  · intro row member published marked
    rw [same] at member
    obtain ⟨publisher, there⟩ := hold.stamped row member published marked
    exact ⟨publisher, more.subset there⟩
  · intro before tid time rows after split row member
    rw [grown] at split
    rcases old_or_added split with ⟨rest, old, rfl⟩ | ⟨front, new⟩
    · rcases hold.conserved before tid time rows rest old row member with kept | retired
      · rw [← same] at kept
        exact Or.inl kept
      · exact Or.inr (retired.mono more (List.prefix_append _ _))
    · have there : ⟨tid, time, .answered (.addMany rows) (Reply.ok ())⟩ ∈ added := by
        rw [new]
        exact List.mem_append_right _ List.mem_cons_self
      exact absurd rfl (unanswered _ there _ _)

/-- An answer to a statement that was founded. -/
theorem LosesNothing.answered {s : OutboxSnapshot} {tid : Nat} {request : OutboxRequest}
    {reply : Reply request.Value} {after : OutboxState} (hold : LosesNothing runtime s)
    (founded : Founded runtime request s)
    (performed : performOutbox lossy s.state request reply = some after) :
    LosesNothing runtime ((⟨after, s.trace⟩ : OutboxSnapshot).log (outboxSystem runtime lossy) tid
      (.answered request reply)) := by
  obtain ⟨-, -, outcome⟩ := performOutbox_cases performed
  have clock := performOutbox_now performed
  have more := Snapshot.extends_log (outboxSystem runtime lossy) ⟨after, s.trace⟩ tid
    (.answered request reply)
  have unmarked (added : List OutboxEntry) (same : request = .addMany added) :
      ∀ row ∈ added, row.processedAt = none := by
    subst same
    exact founded
  constructor
  · intro row member published marked
    have earlier (there : ∃ old ∈ s.state.rows, old.id = row.id ∧ old.processedAt = some published) :
        ∃ publisher, ⟨publisher, published, .marked (.published row.id true)⟩ ∈ s.trace := by
      obtain ⟨old, oldMember, same, oldMarked⟩ := there
      rw [← same]
      exact hold.stamped old oldMember published oldMarked
    have seen : ∃ publisher, ⟨publisher, published, .marked (.published row.id true)⟩ ∈ s.trace := by
      rcases outcome with ⟨effected, -⟩ | ⟨same, -⟩
      · rcases mark_after unmarked (effected ▸ member) marked with old | ⟨processor, rfl⟩
        · exact earlier old
        · exact founded
      · exact earlier ⟨row, same ▸ member, rfl, marked⟩
    obtain ⟨publisher, there⟩ := seen
    exact ⟨publisher, more.subset there⟩
  · intro before writer time rows rest split row member
    rw [Snapshot.log_trace] at split
    rcases old_or_added split with ⟨late, old, rfl⟩ | ⟨front, new⟩
    · rcases hold.conserved before writer time rows late old row member with kept | retired
      · obtain ⟨kept, there, same, written⟩ := kept
        rcases outcome with ⟨effected, -⟩ | ⟨unchanged, -⟩
        · rcases row_after request there with
            ⟨later, laterMember, laterSame, laterWritten⟩ | ⟨processor, olderThan, rfl, expired⟩
          · left
            exact ⟨later, effected ▸ laterMember, laterSame.trans same,
              laterWritten.trans written⟩
          · -- only what was published long ago is deleted
            right
            rw [expiredBefore, Bool.and_eq_true, Option.any_eq_true] at expired
            obtain ⟨-, published, marked, order⟩ := expired
            obtain ⟨publisher, seen⟩ := hold.stamped kept there published marked
            rw [same] at seen
            refine ⟨publisher, published, tid, after.now, processor, olderThan, reply,
              more.subset seen, by simp, of_decide_eq_true order, ?_⟩
            rw [clock]
            exact founded
        · exact Or.inl ⟨kept, unchanged ▸ there, same, written⟩
      · exact Or.inr (retired.mono more (List.prefix_append _ _))
    · cases front with
      | nil =>
          obtain ⟨same, -⟩ := List.cons.inj new
          cases same
          rcases outcome with ⟨effected, -⟩ | ⟨-, reason, impossible⟩
          · left
            refine ⟨row, ?_, rfl, rfl⟩
            rw [Snapshot.log_state, effected]
            exact List.mem_append_right _ member
          · cases impossible
      | cons head front => simp at new

theorem LosesNothing.step (reached : Reachable (outboxSystem runtime lossy) state p)
    (hold : LosesNothing runtime p.snapshot)
    (stepped : p.step (outboxSystem runtime lossy) action = some next) :
    LosesNothing runtime next.snapshot := by
  have moved := ((reached.leaves outboxBody_leaves).step outboxBody_leaves stepped).2
  cases action with
  | call call => exact hold.silent (Pool.silent_step stepped fun _ _ _ same => by cases same) moved
  | resume tid => exact hold.silent (Pool.silent_step stepped fun _ _ _ same => by cases same) moved
  | answer tid request reply =>
      obtain ⟨call, rest, after, found, performed, logged⟩ := Pool.answered stepped
      rw [logged]
      exact hold.answered (founded_reachable reached ⟨tid, call, rest, found⟩) performed
  | external event =>
      have silent := Pool.silent_step stepped fun _ _ _ same => by cases same
      have moved : outboxExternal p.snapshot.state event = some next.snapshot.state := moved
      apply hold.silent silent
      cases event with
      | tick millis => rw [← Option.some.inj moved]
      | subscribe subscription => rw [← Option.some.inj moved]
      | stop processor => rw [← Option.some.inj moved]

/-- From a table in which nothing is marked on, no entry that was added is lost: it is there as it
was written, or it was published and then kept for the retention period. -/
theorem outbox_loses_nothing (unmarked : ∀ row ∈ state.rows, row.processedAt = none)
    (reached : Reachable (outboxSystem runtime lossy) state p) {before after : OutboxTrace}
    {tid time : Nat} {rows : List OutboxEntry} (split : p.snapshot.trace =
      before ++ ⟨tid, time, .answered (.addMany rows) (Reply.ok ())⟩ :: after) :
    ∀ row ∈ rows, Conserved runtime p.snapshot after row := by
  obtain ⟨schedule, ran⟩ := reached
  have run (schedule : List (Action outbox OutboxExternal)) :
      ∀ {p final : Pool outbox Unit}, Reachable (outboxSystem runtime lossy) state p →
        LosesNothing runtime p.snapshot → p.run (outboxSystem runtime lossy) schedule = some final →
        LosesNothing runtime final.snapshot := by
    induction schedule with
    | nil =>
        intro p final reached hold ran
        cases ran
        exact hold
    | cons action rest ih =>
        intro p final reached hold ran
        obtain ⟨next, stepped, remaining⟩ := Option.bind_eq_some_iff.mp ran
        exact ih (reached.step stepped) (hold.step reached stepped) remaining
  have initial : LosesNothing runtime (Pool.initial state : Pool outbox Unit).snapshot := by
    constructor
    · intro row member published marked
      rw [unmarked row member] at marked
      cases marked
    · intro before tid time rows after split
      simp [Pool.initial] at split
  exact (run schedule ⟨[], rfl⟩ initial ran).conserved before tid time rows after split

end Rows

/-! ### A week later -/

/-- The entry is published, kept for its week and cleaned up. -/
def retiredDelivery : List (Action outbox OutboxExternal) :=
  firstDelivery ++ [.external (.tick (7 * 24 * 60 * 60 * 1000)), .call (.cleanupOldEntries 2),
    .resume 2, .answer 2 (.deleteProcessed 2 0) (.ok 1), .resume 2]

theorem outbox_loses_nothing_later : ∃ (p : Pool outbox Unit) (before after : OutboxTrace),
    Reachable (outboxSystem ticketRuntime true) emptyOutbox p ∧ p.snapshot.state.rows = [] ∧
      p.snapshot.trace =
        before ++ ⟨0, 0, .answered (.addMany [ticketRow]) (Reply.ok ())⟩ :: after ∧
      Conserved ticketRuntime p.snapshot after ticketRow := by
  obtain ⟨p, reached, empty, added⟩ : ∃ p : Pool outbox Unit,
      Reachable (outboxSystem ticketRuntime true) emptyOutbox p ∧ p.snapshot.state.rows = [] ∧
        p.snapshot.trace[1]? = some ⟨0, 0, .answered (.addMany [ticketRow]) (Reply.ok ())⟩ :=
    ⟨_, reachable_run _ _ retiredDelivery (by decide +kernel), by decide +kernel, rfl⟩
  obtain ⟨before, after, split⟩ := List.append_of_mem (List.mem_of_getElem? added)
  have conserved := outbox_loses_nothing (by decide) reached split
  exact ⟨p, before, after, reached, empty, split, conserved ticketRow (List.mem_singleton.mpr rfl)⟩

end SelfService
