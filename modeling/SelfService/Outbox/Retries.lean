/-
Entries that wait for a retry.

An entry in processing is held by the task inside `processEntry` for it, and a failed
entry waits for the `resetForRetry` at the end of a batch.  Both rest on statements
that may fail, and on processors that may stop.
-/

import SelfService.Outbox.Delivery

namespace SelfService

open EventLoop

/-! ### Where a task stands -/

/-- What a task has been told: the entry whose `processEntry` it is inside of, whether it got its
batch and found it empty, whether a statement failed that ends the batch, and whether the failed
entries were reset. -/
structure OutboxWatch where
  inside : Option (Nat × String)
  asked : Bool
  empty : Bool
  failed : Bool
  reset : Bool
  deriving DecidableEq

def OutboxWatch.begun : OutboxWatch := ⟨none, false, false, false, false⟩

def OutboxWatch.observe (watch : OutboxWatch) : OutboxEvent → OutboxWatch
  | .answered (.getPending _ _) (Reply.ok batch) =>
      { watch with asked := true, empty := batch.isEmpty }
  | .answered (.getPending _ _) (Reply.failed _ _) => { watch with asked := true, failed := true }
  | .answered (.markAsProcessing processor id) (Reply.ok true) =>
      { watch with inside := some (processor, id) }
  | .answered (.markAsProcessing _ _) (Reply.failed _ _) => { watch with failed := true }
  | .answered (.markAsProcessed _ _ _) (Reply.ok _) => { watch with inside := none }
  | .answered (.markAsFailed _ _ _) (Reply.ok _) => { watch with inside := none }
  | .answered (.markAsFailed _ _ _) (Reply.failed _ _) =>
      { watch with inside := none, failed := true }
  | .answered (.resetForRetry _ _) (Reply.ok _) => { watch with reset := true }
  | .answered (.resetForRetry _ _) (Reply.failed _ _) => { watch with failed := true }
  | _ => watch

/-- The entries of a task, watched. -/
def watchOf (own : OutboxTrace) : OutboxWatch := observation OutboxWatch.observe .begun own

theorem watchOf_snoc (own : OutboxTrace) (entry : OutboxTraceEntry) :
    watchOf (own ++ [entry]) = (watchOf own).observe entry.event :=
  observation_snoc _ _ _ _

/-- The batch ended without a failure, and it was not empty. -/
def OutboxWatch.Smooth (watch : OutboxWatch) : Prop := watch.empty = false ∧ watch.failed = false

/-- A task releases the entry it is inside of, takes none before, and has left the last one at
its end.  Then it has reset the failed entries if its batch was smooth, and otherwise not. -/
def RetryLaw (runtime : OutboxRuntime) : Law outbox Unit := fun own entry =>
  match entry.event with
  | .answered (.markAsProcessing _ _) _ => (watchOf own).inside = none
  | .answered (.markAsProcessed processor id _) _ => (watchOf own).inside = some (processor, id)
  | .answered (.markAsFailed processor id _) _ => (watchOf own).inside = some (processor, id)
  | .answered (.resetForRetry _ maxRetries) _ => maxRetries = runtime.config.maxRetries
  | .answered (.addMany rows) _ => ∀ row ∈ rows, row.status = .pending
  | .finished _ _ => (watchOf own).inside = none ∧
      ((watchOf own).asked = true → ((watchOf own).reset = true ↔ (watchOf own).Smooth))
  | _ => True

section Watching

variable {runtime : OutboxRuntime} {lossy : Bool} {tid : Nat} {state : OutboxState}
  {past : OutboxTrace}

/-- The task obeys the law, from a watch to a watch. -/
abbrev Watches (runtime : OutboxRuntime) (lossy : Bool) (tid : Nat) {α : Type}
    (post : Except Exn α → OutboxWatch → Prop) (task : OutboxTask α) (state : OutboxState)
    (past : OutboxTrace) : Prop :=
  Obeys (outboxSystem runtime lossy) tid (RetryLaw runtime)
    (fun result _ all => post result (watchOf all)) task state past

theorem Watches.bind {α β : Type} {task : OutboxTask α} {rest : α → OutboxTask β}
    {middle : Except Exn α → OutboxWatch → Prop} {post : Except Exn β → OutboxWatch → Prop}
    (first : Watches runtime lossy tid middle task state past)
    (failed : ∀ error watch, middle (.error error) watch → post (.error error) watch)
    (next : ∀ value last all, middle (.ok value) (watchOf all) →
      Watches runtime lossy tid post (rest value) last all) :
    Watches runtime lossy tid post (task >>= rest) state past := by
  unfold Watches
  rw [obeys_bind]
  apply first.mono
  intro result last all ended
  cases result with
  | error error => exact failed error _ ended
  | ok value => exact next value last all ended

theorem Watches.attempt {α : Type} {task : OutboxTask α}
    {post : Except Exn (Except Exn α) → OutboxWatch → Prop}
    (first : Watches runtime lossy tid (fun result watch => post (.ok result) watch) task state
      past) :
    Watches runtime lossy tid post task.attempt state past :=
  (obeys_attempt _ task state past).mpr first

theorem watched_outboxAsk (request : OutboxRequest)
    {post : Except Exn request.Value → OutboxWatch → Prop}
    (lawful : ∀ time reply, RetryLaw runtime past ⟨tid, time, .answered request reply⟩)
    (ended : ∀ value, post (.ok value)
      ((watchOf past).observe (.answered request (Reply.ok value))))
    (failed : ∀ applied reason, post (.error (.error reason))
      ((watchOf past).observe (.answered request (Reply.failed applied reason)))) :
    Watches runtime lossy tid post (outboxAsk request) state past := by
  intro reply before after resumed performed
  refine ⟨lawful _ reply, ?_⟩
  cases reply with
  | ok value =>
      have watched := ended value
      rw [← watchOf_snoc past ⟨tid, OutboxState.now after,
        .answered request (Reply.ok value)⟩] at watched
      exact watched
  | failed applied reason =>
      have watched := failed applied reason
      rw [← watchOf_snoc past ⟨tid, OutboxState.now after,
        .answered request (Reply.failed applied reason)⟩] at watched
      exact watched

theorem Watches.weaken {α : Type} {task : OutboxTask α}
    {post weaker : Except Exn α → OutboxWatch → Prop}
    (first : Watches runtime lossy tid post task state past)
    (imp : ∀ result watch, post result watch → weaker result watch) :
    Watches runtime lossy tid weaker task state past :=
  first.mono fun result _ all held => imp result (watchOf all) held

/-- Publishing tells the watch nothing. -/
theorem publish_watches {processor : Nat} (event : DomainEvent) :
    Watches runtime lossy tid (fun _ watch => watch = watchOf past)
      (EventBus.publish runtime processor event) state past := by
  unfold EventBus.publish
  split
  · exact rfl
  · change Watches runtime lossy tid (fun _ watch => watch = watchOf past) (ite _ _ _) state past
    split
    · exact rfl
    · have asked : Watches runtime lossy tid (fun _ watch => watch = watchOf past)
          (outboxAsk (.handle processor event (state.handlersOf processor event.eventType))) state
          past :=
        watched_outboxAsk _ (fun _ _ => trivial) (fun _ => rfl) fun _ _ => rfl
      exact asked.bind (fun _ _ held => held) fun _ _ _ held => held

def OutboxWatch.released (watch : OutboxWatch) : OutboxWatch := { watch with inside := none }

def OutboxWatch.struck (watch : OutboxWatch) : OutboxWatch := { watch with failed := true }

/-- The attempt releases the entry, or throws and still holds it. -/
def attemptEnds {α : Type} (start : OutboxWatch) (result : Except Exn α)
    (watch : OutboxWatch) : Prop :=
  watch = if result.isOk then start.released else start

/-- The entry is left as it was found, or with a failure that ends the batch. -/
def entryEnds {α : Type} (start : OutboxWatch) (result : Except Exn α)
    (watch : OutboxWatch) : Prop :=
  watch = if result.isOk then start else start.struck

theorem publishEntry_watches {processor : Nat} {id payload : String}
    (inside : (watchOf past).inside = some (processor, id)) :
    Watches runtime lossy tid
      (attemptEnds (watchOf past))
      (OutboxProcessorService.publishEntry runtime processor id payload) state past := by
  unfold OutboxProcessorService.publishEntry
  split
  · exact rfl
  · rename_i event parsed
    let began := past ++ [⟨tid, state.now,
      .marked (.publishing id event (state.handlersOf processor event.eventType))⟩]
    have same : watchOf began = watchOf past := watchOf_snoc past _
    have published : Watches runtime lossy tid (fun _ watch => watch = watchOf past)
        (EventBus.publish runtime processor event).attempt state began := by
      apply Watches.attempt
      rw [← same]
      exact publish_watches event
    have tried : Watches runtime lossy tid (attemptEnds (watchOf past))
        ((EventBus.publish runtime processor event).attempt >>= fun outcome => do
          Task.note (.published id outcome.isOk)
          Task.settleWith outcome
          let state ← Task.read
          outboxAsk (.markAsProcessed processor id state.now)) state began := by
      apply published.bind (fun _ _ held => held)
      intro outcome last all held
      refine ⟨trivial, ?_⟩
      let told := all ++ [⟨tid, last.now, .marked (.published id outcome.isOk)⟩]
      have heard : watchOf told = watchOf past := (watchOf_snoc all _).trans held
      cases outcome with
      | error error => exact heard
      | ok value =>
          have asked : Watches runtime lossy tid (attemptEnds (watchOf past))
              (outboxAsk (.markAsProcessed processor id last.now)) last told :=
            watched_outboxAsk _ (fun _ _ => (congrArg OutboxWatch.inside heard).trans inside)
              (fun _ => congrArg OutboxWatch.released heard) fun _ _ => heard
          exact asked
    exact ⟨trivial, tried⟩

theorem processEntry_watches {processor : Nat} {id payload : String}
    (outside : (watchOf past).inside = none) :
    Watches runtime lossy tid
      (entryEnds (watchOf past))
      (OutboxProcessorService.processEntry runtime processor id payload) state past := by
  unfold OutboxProcessorService.processEntry
  let held : OutboxWatch := { watchOf past with inside := some (processor, id) }
  have back : held.released = watchOf past := by
    change { watchOf past with inside := none } = watchOf past
    rw [← outside]
  have acquired : Watches runtime lossy tid
      (fun result watch => (result = .ok true → watch = held) ∧
        (result ≠ .ok true → entryEnds (watchOf past) result watch))
      (outboxAsk (.markAsProcessing processor id)) state past := by
    refine watched_outboxAsk (.markAsProcessing processor id) (fun _ _ => outside) ?_ ?_
    · intro value
      cases value with
      | true => exact ⟨fun _ => rfl, fun other => absurd rfl other⟩
      | false => exact ⟨fun same => (by cases same), fun _ => rfl⟩
    · exact fun _ _ => ⟨fun same => (by cases same), fun _ => rfl⟩
  apply acquired.bind
  · exact fun error watch ended => ended.2 (fun same => (by cases same))
  intro value last all ended
  cases value with
  | false => exact ended.2 (fun same => (by cases same))
  | true =>
      have stands : watchOf all = held := ended.1 rfl
      have attempted : Watches runtime lossy tid
          (fun result watch => ∃ outcome, result = .ok outcome ∧ attemptEnds held outcome watch)
          (OutboxProcessorService.publishEntry runtime processor id payload).attempt last all := by
        apply Watches.attempt
        apply (publishEntry_watches (by rw [stands])).weaken
        intro result watch ended
        rw [stands] at ended
        exact ⟨result, rfl, ended⟩
      apply attempted.bind
      · rintro error watch ⟨outcome, same, -⟩
        cases same
      rintro outcome final later ⟨_, ⟨⟩, ended⟩
      cases outcome with
      | ok value => exact Eq.trans ended back
      | error error =>
          have inside : watchOf later = held := ended
          have told : Watches runtime lossy tid (entryEnds (watchOf past))
              (outboxAsk (.markAsFailed processor id error.message)) final later := by
            refine watched_outboxAsk _ (fun _ _ => by rw [RetryLaw, inside]) ?_ ?_
            · intro _
              exact (congrArg OutboxWatch.released inside).trans back
            · intro _ _
              exact (congrArg (fun watch : OutboxWatch => watch.released.struck) inside).trans
                (congrArg OutboxWatch.struck back)
          exact told

theorem processEntries_watches {processor : Nat} (entries : List OutboxEntry)
    (outside : (watchOf past).inside = none) :
    Watches runtime lossy tid
      (entryEnds (watchOf past))
      (OutboxProcessorService.processEntries runtime processor entries) state past := by
  induction entries generalizing state past with
  | nil => exact rfl
  | cons entry rest ih =>
      apply (processEntry_watches outside).bind (fun _ _ held => held)
      intro _ last all held
      have same : watchOf all = watchOf past := held
      rw [← same]
      exact ih (by rw [same, outside])

/-- At its end a batch holds no entry, and it reset the failed ones if it was smooth. -/
def OutboxWatch.Done (watch : OutboxWatch) : Prop :=
  watch.inside = none ∧ (watch.asked = true → (watch.reset = true ↔ watch.Smooth))

/-- The batch was empty, a statement of it failed, or the failed entries were reset. -/
theorem done_of_batch (empty failed : Bool) :
    OutboxWatch.Done ⟨none, true, empty, failed, !empty && !failed⟩ := by
  refine ⟨rfl, fun _ => ?_⟩
  unfold OutboxWatch.Smooth
  cases empty <;> cases failed <;> simp

theorem processBatch_watches {processor : Nat} (begun : watchOf past = .begun) :
    Watches runtime lossy tid (fun _ watch => watch.Done)
      (OutboxProcessorService.processBatch runtime processor) state past := by
  unfold OutboxProcessorService.processBatch
  have asked : Watches runtime lossy tid
      (fun result watch => match result with
        | .ok batch => watch = ⟨none, true, List.isEmpty batch, false, false⟩
        | .error _ => watch = ⟨none, true, false, true, false⟩)
      (outboxAsk (.getPending processor runtime.config.batchSize)) state past := by
    apply watched_outboxAsk (.getPending processor runtime.config.batchSize) (fun _ _ => trivial)
    · exact fun _ => by rw [begun]; rfl
    · exact fun _ _ => by rw [begun]; rfl
  apply asked.bind
  · rintro error watch rfl
    exact done_of_batch false true
  · intro batch last all held
    have stands : watchOf all = ⟨none, true, batch.isEmpty, false, false⟩ := held
    split
    · rename_i empty
      change (watchOf all).Done
      rw [stands, empty]
      exact done_of_batch true false
    · rename_i full
      rw [List.isEmpty_eq_false_iff.mpr full] at stands
      have processed : Watches runtime lossy tid (entryEnds (watchOf all))
          (OutboxProcessorService.processEntries runtime processor batch) last all :=
        processEntries_watches batch (by rw [stands])
      apply processed.bind
      · intro error watch ended
        have struck : watch = (watchOf all).struck := ended
        rw [struck, stands]
        exact done_of_batch false true
      · intro _ final later same
        have kept : watchOf later = ⟨none, true, false, false, false⟩ := Eq.trans same stands
        have reset : Watches runtime lossy tid (fun _ watch => watch.Done)
            (outboxAsk (.resetForRetry processor runtime.config.maxRetries)) final later := by
          apply watched_outboxAsk (.resetForRetry processor runtime.config.maxRetries)
            (fun _ _ => rfl)
          · intro _
            rw [kept]
            exact done_of_batch false false
          · intro _ _
            rw [kept]
            exact done_of_batch false true
        exact reset.bind (fun _ _ held => held) fun _ _ _ held => held

theorem outboxBody_watches (call : OutboxCall) (begun : watchOf past = .begun) :
    Watches runtime lossy tid (fun _ watch => watch.Done) (outboxBody runtime call) state past := by
  have idle : (watchOf past).Done := by
    rw [begun]
    exact ⟨rfl, fun asked => nomatch asked⟩
  cases call with
  | addMany events =>
      change Watches runtime lossy tid _ (OutboxRepository.addMany runtime events) state past
      unfold OutboxRepository.addMany
      split
      · exact idle
      · have added : Watches runtime lossy tid (fun _ watch => watch.Done)
            (outboxAsk (.addMany (events.map (OutboxRepository.row runtime state.now)))) state
            past := by
          refine watched_outboxAsk _ (fun _ _ row member => ?_) (fun _ => idle) fun _ _ => idle
          obtain ⟨event, -, rfl⟩ := List.mem_map.mp member
          exact rfl
        exact added
  | processOutbox processor =>
      change Watches runtime lossy tid _ (ite _ _ _) state past
      split
      · exact idle
      · have ran : Watches runtime lossy tid (fun _ watch => watch.Done)
            (OutboxProcessorService.processBatch runtime processor).attempt
            { state with processing := processor :: state.processing } past :=
          (processBatch_watches begun).attempt
        exact ran.bind (fun _ _ held => held) fun _ _ _ held => held
  | cleanupOldEntries processor =>
      have deleted : Watches runtime lossy tid (fun _ watch => watch.Done)
          (outboxAsk (.deleteProcessed processor
            (state.now - runtime.config.retentionPeriodMs))).attempt state past :=
        Watches.attempt
          (watched_outboxAsk _ (fun _ _ => trivial) (fun _ => idle) fun _ _ => idle)
      exact deleted.bind (fun _ _ held => held) fun _ _ _ held => held

theorem retry_lawful (call : OutboxCall) :
    Lawful (outboxSystem runtime lossy) (RetryLaw runtime) tid call where
  starts _ := trivial
  obeys _ _ := Obeys.mono (outboxBody_watches call rfl) fun _ _ _ done _ => done

end Watching

/-! ### Entries in processing -/

/-- Some attempt to publish the entry came to its end. -/
def Published (trace : OutboxTrace) (id : String) : Prop :=
  ∃ entry ∈ trace, entry.event = .marked (.published id true)

/-- The entry is still to be published, and has attempts left. -/
structure Owed (maxRetries : Nat) (trace : OutboxTrace) (row : OutboxEntry) : Prop where
  unpublished : ¬ Published trace row.id
  retries : row.retryCount < maxRetries

/-- A processor that has not stopped is inside `processEntry` for the entry. -/
def Held (s : OutboxSnapshot) (id : String) : Prop :=
  ∃ tid processor, (watchOf (ownEntries tid s.trace)).inside = some (processor, id) ∧
    processor ∉ s.state.stopped

def NoneStuck (maxRetries : Nat) (s : OutboxSnapshot) : Prop :=
  ∀ row ∈ s.state.rows, Owed maxRetries s.trace row → row.status = .processing → Held s row.id

/-- The step leaves no entry behind: no failed `markAsProcessing` has locked one that is owed, no
`markAsFailed` for one in processing fails without effect, and no processor stops inside one. -/
def LeavesNone (maxRetries : Nat) (p : Pool outbox Unit) : Action outbox OutboxExternal → Prop
  | .answer _ (.markAsProcessing _ id) (Reply.failed true _) =>
      ∀ row ∈ p.snapshot.state.rows, row.id = id → Owed maxRetries p.snapshot.trace row →
        row.status ≠ .pending
  | .answer _ (.markAsFailed _ id _) (Reply.failed false _) =>
      ∀ row ∈ p.snapshot.state.rows, row.id = id → Owed maxRetries p.snapshot.trace row →
        row.status ≠ .processing
  | .external (.stop processor) =>
      ∀ tid id, (watchOf (ownEntries tid p.snapshot.trace)).inside = some (processor, id) →
        ∀ row ∈ p.snapshot.state.rows, row.id = id → Owed maxRetries p.snapshot.trace row →
          row.status ≠ .processing
  | _ => True

theorem Owed.earlier {maxRetries : Nat} {early late : OutboxTrace} {row : OutboxEntry}
    (owed : Owed maxRetries late row) (grown : early <+: late) : Owed maxRetries early row := by
  refine ⟨?_, owed.retries⟩
  rintro ⟨entry, member, published⟩
  exact owed.unpublished ⟨entry, grown.subset member, published⟩

/-- What hears no answer keeps its watch. -/
theorem watchOf_silent {early late : OutboxTrace} (silent : AddsNoAnswer early late) (tid : Nat) :
    watchOf (ownEntries tid late) = watchOf (ownEntries tid early) := by
  obtain ⟨added, rfl, unanswered⟩ := silent
  rw [ownEntries_append]
  have quiet (more : OutboxTrace) : (∀ entry ∈ more, ∀ request answer,
      entry.event ≠ .answered request answer) → ∀ own,
        watchOf (own ++ more) = watchOf own := by
    induction more with
    | nil => exact fun _ own => by rw [List.append_nil]
    | cons entry rest ih =>
        intro unanswered own
        rw [← List.singleton_append, ← List.append_assoc,
          ih (fun other member => unanswered other (List.mem_cons_of_mem _ member)), watchOf_snoc]
        have free := unanswered entry List.mem_cons_self
        cases told : entry.event with
        | started call => rfl
        | answered request answer => exact absurd told (free request answer)
        | marked label => rfl
        | finished call result => rfl
  apply quiet
  intro entry member
  exact unanswered entry (mem_ownEntries.mp member).1

/-- The entry that an answer releases. -/
def releases : (request : OutboxRequest) → Reply request.Value → Option String
  | .markAsProcessed _ id _, Reply.ok _ => some id
  | .markAsFailed _ id _, _ => some id
  | _, _ => none

/-- A task stays inside of the entry that it does not release. -/
theorem inside_kept {runtime : OutboxRuntime} {own : OutboxTrace} {tid time processor : Nat}
    {id : String} {request : OutboxRequest} {reply : Reply request.Value}
    (lawful : RetryLaw runtime own ⟨tid, time, .answered request reply⟩)
    (inside : (watchOf own).inside = some (processor, id))
    (spared : releases request reply ≠ some id) :
    ((watchOf own).observe (.answered request reply)).inside = some (processor, id) := by
  have other {holder : Nat} {released : String}
      (mine : (watchOf own).inside = some (holder, released)) : released = id := by
    rw [inside] at mine
    cases mine
    rfl
  cases request with
  | addMany rows => exact inside
  | handle processor event handlers => exact inside
  | deleteProcessed processor olderThan => exact inside
  | getPending processor limit =>
      cases reply with
      | ok batch => exact inside
      | failed applied reason => exact inside
  | resetForRetry processor maxRetries =>
      cases reply with
      | ok count => exact inside
      | failed applied reason => exact inside
  | markAsProcessing holder taken =>
      have outside : (watchOf own).inside = none := lawful
      rw [outside] at inside
      cases inside
  | markAsProcessed holder released processedAt =>
      cases reply with
      | ok value => exact absurd (congrArg some (other lawful)) spared
      | failed applied reason => exact inside
  | markAsFailed holder released error => exact absurd (congrArg some (other lawful)) spared

/-- A row that is in processing after a statement was so before, and the statement is not about
it, or it was pending and the statement took it. -/
theorem processing_of_effect {request : OutboxRequest} {rows : List OutboxEntry} {row : OutboxEntry}
    (pending : ∀ added, request = .addMany added → ∀ row ∈ added, row.status = .pending)
    (member : row ∈ effect request rows) (processing : row.status = .processing) :
    (row ∈ rows ∧ ∀ reply, releases request reply ≠ some row.id) ∨
      ∃ processor, request = .markAsProcessing processor row.id ∧ ∃ old ∈ rows,
        old.status = .pending ∧ row = { old with status := .processing } := by
  have updated {selects : OutboxEntry → Bool} {update : OutboxEntry → OutboxEntry}
      (other : ∀ old, (update old).status ≠ .processing)
      (there : row ∈ updateRows selects update rows) : row ∈ rows ∧ selects row = false := by
    obtain ⟨old, oldMember, rfl⟩ := mem_updateRows.mp there
    split at processing
    · exact absurd processing (other old)
    · rename_i unselected
      rw [if_neg unselected]
      exact ⟨oldMember, Bool.eq_false_iff.mpr unselected⟩
  cases request with
  | addMany added =>
      rcases List.mem_append.mp member with old | new
      · exact .inl ⟨old, fun _ wrong => by cases wrong⟩
      · rw [pending added rfl row new] at processing
        cases processing
  | getPending processor limit => exact .inl ⟨member, fun _ wrong => by cases wrong⟩
  | handle processor event handlers => exact .inl ⟨member, fun _ wrong => by cases wrong⟩
  | deleteProcessed processor olderThan =>
      exact .inl ⟨List.mem_of_mem_filter member, fun _ wrong => by cases wrong⟩
  | resetForRetry processor maxRetries =>
      exact .inl ⟨(updated (fun _ => OutboxStatus.noConfusion) member).1, fun _ wrong => by cases wrong⟩
  | markAsProcessed processor id processedAt =>
      obtain ⟨old, unselected⟩ := updated (fun _ => OutboxStatus.noConfusion) member
      refine .inl ⟨old, ?_⟩
      intro reply released
      cases reply with
      | ok value => exact absurd (Option.some.inj released).symm (of_decide_eq_false unselected)
      | failed applied reason => cases released
  | markAsFailed processor id error =>
      obtain ⟨old, unselected⟩ := updated (fun _ => OutboxStatus.noConfusion) member
      refine .inl ⟨old, ?_⟩
      intro reply released
      exact absurd (Option.some.inj released).symm (of_decide_eq_false unselected)
  | markAsProcessing processor id =>
      obtain ⟨old, oldMember, rfl⟩ := mem_updateRows.mp member
      split at processing
      · rename_i selected
        rw [Bool.and_eq_true, isPending, decide_eq_true_eq, decide_eq_true_eq] at selected
        rw [if_pos (by rw [isPending, selected.1, selected.2]; simp)]
        exact .inr ⟨processor, by rw [selected.1], old, oldMember, selected.2, rfl⟩
      · rename_i unselected
        rw [if_neg unselected]
        exact .inl ⟨oldMember, fun _ wrong => by cases wrong⟩

section Runs

variable {runtime : OutboxRuntime} {lossy : Bool} {state : OutboxState} {p next : Pool outbox Unit}
  {action : Action outbox OutboxExternal}

abbrev RetriesLeft (runtime : OutboxRuntime) (s : OutboxSnapshot) : Prop :=
  NoneStuck runtime.config.maxRetries s

/-- What a request does: it is answered while its processor runs, and it takes effect, or it
fails without. -/
theorem performOutbox_cases {before after : OutboxState} {request : OutboxRequest}
    {reply : Reply request.Value}
    (performed : performOutbox lossy before request reply = some after) :
    after.stopped = before.stopped ∧
      (∀ processor, request.processor = some processor → processor ∉ before.stopped) ∧
      ((after.rows = effect request before.rows ∧
          ((∃ value, reply = .ok value ∧ returns before.rows request value = true) ∨
            ∃ reason, reply = .failed true reason)) ∨
        (after.rows = before.rows ∧ ∃ reason, reply = .failed false reason)) := by
  unfold performOutbox at performed
  split at performed
  · cases performed
  · rename_i running
    have here (processor : Nat) (asks : request.processor = some processor) :
        processor ∉ before.stopped := by
      intro stopped
      rw [asks] at running
      exact running (List.contains_iff_mem.mpr stopped)
    cases reply with
    | ok value =>
        simp only [Option.ite_none_right_eq_some, Option.some.injEq] at performed
        obtain ⟨returned, rfl⟩ := performed
        exact ⟨rfl, here, .inl ⟨rfl, .inl ⟨value, rfl, returned⟩⟩⟩
    | failed applied reason =>
        simp only [Option.ite_none_right_eq_some, Option.some.injEq] at performed
        obtain ⟨-, rfl⟩ := performed
        cases applied with
        | true => exact ⟨rfl, here, .inl ⟨rfl, .inr ⟨reason, rfl⟩⟩⟩
        | false => exact ⟨rfl, here, .inr ⟨rfl, reason, rfl⟩⟩

/-- Where the watches and the stopped processors stay, a holder stays. -/
theorem Held.of_watches {s later : OutboxSnapshot} {id : String} (held : Held s id)
    (watches : ∀ tid, watchOf (ownEntries tid later.trace) = watchOf (ownEntries tid s.trace))
    (running : ∀ tid processor, (watchOf (ownEntries tid s.trace)).inside = some (processor, id) →
      processor ∉ s.state.stopped → processor ∉ later.state.stopped) : Held later id := by
  obtain ⟨tid, processor, inside, here⟩ := held
  refine ⟨tid, processor, ?_, running tid processor inside here⟩
  rw [watches]
  exact inside

/-- The answer to a task. -/
theorem NoneStuck.answered {s : OutboxSnapshot} {tid : Nat} {request : OutboxRequest}
    {reply : Reply request.Value} {after : OutboxState}
    (hold : RetriesLeft runtime s)
    (lawful : RetryLaw runtime (ownEntries tid s.trace)
      ⟨tid, after.now, .answered request reply⟩)
    (meets : ∀ threads, LeavesNone runtime.config.maxRetries ⟨s, threads⟩
      (.answer tid request reply))
    (performed : performOutbox lossy s.state request reply = some after) :
    RetriesLeft runtime ((⟨after, s.trace⟩ : OutboxSnapshot).log (outboxSystem runtime lossy) tid
      (.answered request reply)) := by
  intro row member owed processing
  obtain ⟨sameStopped, running, outcome⟩ := performOutbox_cases performed
  have owedBefore : Owed runtime.config.maxRetries s.trace row :=
    owed.earlier (List.prefix_append _ _)
  -- Whoever was inside of the entry still is, unless this answer released it.
  have kept (held : Held s row.id) (spared : releases request reply ≠ some row.id) :
      Held ((⟨after, s.trace⟩ : OutboxSnapshot).log (outboxSystem runtime lossy) tid
        (.answered request reply)) row.id := by
    obtain ⟨holder, processor, inside, here⟩ := held
    refine ⟨holder, processor, ?_, ?_⟩
    · rw [Snapshot.log_trace, ownEntries_append]
      by_cases own : holder = tid
      · subst own
        rw [ownEntries_self, watchOf_snoc]
        exact inside_kept lawful inside spared
      · rw [ownEntries_other (Ne.symm own), List.append_nil]
        exact inside
    · change processor ∉ after.stopped
      rw [sameStopped]
      exact here
  have pending (added : List OutboxEntry) (same : request = .addMany added) :
      ∀ row ∈ added, row.status = .pending := by
    subst same
    exact lawful
  rcases outcome with ⟨same, heard⟩ | ⟨same, reason, rfl⟩
  · -- The statement took effect.
    have there : row ∈ effect request s.state.rows := same ▸ member
    rcases processing_of_effect pending there processing with
      ⟨old, spared⟩ | ⟨processor, rfl, old, oldMember, wasPending, rfl⟩
    · exact kept (hold row old owedBefore processing) (spared reply)
    · rcases heard with ⟨acquired, rfl, returned⟩ | ⟨reason, rfl⟩
      · have taken : acquired = true := by
          rw [of_decide_eq_true returned, List.any_eq_true]
          exact ⟨old, oldMember, by rw [isPending, wasPending]; simp⟩
        subst taken
        refine ⟨tid, processor, ?_, ?_⟩
        · rw [Snapshot.log_trace, ownEntries_append, ownEntries_self, watchOf_snoc]
          rfl
        · change processor ∉ after.stopped
          rw [sameStopped]
          exact running processor rfl
      · have owedOld : Owed runtime.config.maxRetries s.trace old :=
          ⟨owedBefore.unpublished, owedBefore.retries⟩
        exact absurd wasPending (meets [] old oldMember rfl owedOld)
  · -- It failed without effect.
    have there : row ∈ s.state.rows := same ▸ member
    apply kept (hold row there owedBefore processing)
    intro released
    cases request with
    | markAsFailed processor id error =>
        have mine : row.id = id := (Option.some.inj released).symm
        exact meets [] row there mine owedBefore processing
    | addMany rows => cases released
    | getPending processor limit => cases released
    | markAsProcessing processor id => cases released
    | markAsProcessed processor id processedAt => cases released
    | resetForRetry processor maxRetries => cases released
    | deleteProcessed processor olderThan => cases released
    | handle processor event handlers => cases released

/-- A step under the condition leaves no entry stuck. -/
theorem NoneStuck.step (reached : Reachable (outboxSystem runtime lossy) state p)
    (hold : RetriesLeft runtime p.snapshot)
    (meets : LeavesNone runtime.config.maxRetries p action)
    (stepped : p.step (outboxSystem runtime lossy) action = some next) :
    RetriesLeft runtime next.snapshot := by
  have apart : ∀ call, LeavesPart (fun state => (state.rows, state.stopped))
      (outboxBody runtime call) := outboxBody_leavesPart fun _ _ => rfl
  have moved := ((reached.leaves apart).step apart stepped).2
  -- What leaves the rows alone and tells nobody anything keeps every holder.
  have quiet (silent : AddsNoAnswer p.snapshot.trace next.snapshot.trace)
      (same : next.snapshot.state.rows = p.snapshot.state.rows)
      (running : ∀ row ∈ p.snapshot.state.rows,
        Owed runtime.config.maxRetries p.snapshot.trace row →
        row.status = .processing → ∀ tid processor,
          (watchOf (ownEntries tid p.snapshot.trace)).inside = some (processor, row.id) →
            processor ∉ p.snapshot.state.stopped → processor ∉ next.snapshot.state.stopped) :
      RetriesLeft runtime next.snapshot := by
    intro row member owed processing
    rw [same] at member
    have grown : p.snapshot.trace <+: next.snapshot.trace := by
      obtain ⟨added, grown, -⟩ := silent
      exact ⟨added, grown.symm⟩
    have before := owed.earlier grown
    exact (hold row member before processing).of_watches (watchOf_silent silent)
      (running row member before processing)
  cases action with
  | call call =>
      obtain ⟨rows, stopped⟩ := Prod.mk.inj moved
      exact quiet (Pool.silent_step stepped nofun) rows fun _ _ _ _ _ _ _ here => stopped ▸ here
  | resume tid =>
      obtain ⟨rows, stopped⟩ := Prod.mk.inj moved
      exact quiet (Pool.silent_step stepped nofun) rows fun _ _ _ _ _ _ _ here => stopped ▸ here
  | answer tid request reply =>
      obtain ⟨after, performed, logged⟩ := moved
      have lawful : RetryLaw runtime (ownEntries tid p.snapshot.trace)
          ⟨tid, after.now, .answered request reply⟩ :=
        (reached.step stepped).lawful (congrArg Snapshot.trace logged) fun call _ =>
          retry_lawful call
      rw [logged]
      exact NoneStuck.answered hold lawful (fun _ => meets) performed
  | external event =>
      have silent := Pool.silent_step stepped nofun
      cases event with
      | tick millis =>
          have same := (Option.some.inj moved).symm
          exact quiet silent (by rw [same]) fun _ _ _ _ _ _ _ here => by rw [same]; exact here
      | subscribe subscription =>
          have same := (Option.some.inj moved).symm
          exact quiet silent (by rw [same]) fun _ _ _ _ _ _ _ here => by rw [same]; exact here
      | stop processor =>
          have same := (Option.some.inj moved).symm
          refine quiet silent (by rw [same]) ?_
          intro row member owed processing tid holder inside here
          rw [same]
          intro stopped
          rcases List.mem_cons.mp stopped with rfl | earlier
          · exact meets tid row.id inside row member rfl owed processing
          · exact here earlier

/-- Every batch that came to its end returned the failed entries if it was smooth, and otherwise
not. -/
def ResetWhereSmooth (trace : OutboxTrace) : Prop :=
  ∀ before after tid time processor result,
    trace = before ++ ⟨tid, time, .finished (.processOutbox processor) result⟩ :: after →
      (watchOf (ownEntries tid before)).asked = true →
        ((watchOf (ownEntries tid before)).reset = true ↔ (watchOf (ownEntries tid before)).Smooth)

/-- After a reset no failed entry with retries left is still failed. -/
def ResetsReturn (runtime : OutboxRuntime) (p : Pool outbox Unit)
    (action : Action outbox OutboxExternal) (next : Pool outbox Unit) : Prop :=
  ∀ tid processor maxRetries count,
    action = .answer tid (.resetForRetry processor maxRetries) (.ok count) →
      ∀ row ∈ p.snapshot.state.rows, row.status = .failed →
        row.retryCount < runtime.config.maxRetries →
          { row with status := .pending } ∈ next.snapshot.state.rows

/-- From a table without entries in processing on, none is left there where the steps leave none
behind, and a batch returns the failed entries where it is neither empty nor cut short. -/
theorem none_stuck (idle : ∀ row ∈ state.rows, row.status ≠ .processing)
    (reached : Reachable (outboxSystem runtime lossy) state p) :
    (ReachableUnder (outboxSystem runtime lossy) (LeavesNone runtime.config.maxRetries) state p →
      NoneStuck runtime.config.maxRetries p.snapshot) ∧
    ResetWhereSmooth p.snapshot.trace ∧
    ∀ action next, p.step (outboxSystem runtime lossy) action = some next →
      ResetsReturn runtime p action next := by
  refine ⟨?_, ?_, ?_⟩
  · apply ReachableUnder.invariant
    · exact fun row member _ processing => absurd processing (idle row member)
    · exact fun p action next reached hold meets stepped => hold.step reached meets stepped
  · intro before after tid time processor result split
    exact (reached.lawful split fun call _ => retry_lawful call).2
  · rintro action next stepped tid processor maxRetries count rfl row member failed retries
    have moved := ((reached.leaves outboxBody_leaves).step outboxBody_leaves stepped).2
    obtain ⟨after, performed, logged⟩ := moved
    have bound : maxRetries = runtime.config.maxRetries :=
      (reached.step stepped).lawful (congrArg Snapshot.trace logged) fun call _ =>
        retry_lawful call
    subst bound
    have done : performOutbox lossy p.snapshot.state
        (.resetForRetry processor runtime.config.maxRetries) (.ok count) = some after := performed
    have effected := (performed_ok done).2
    rw [logged, effected]
    refine mem_updateRows.mpr ⟨row, member, ?_⟩
    rw [if_pos (by rw [retriable, failed]; simp [retries])]

end Runs

/-! ### An event that nobody can publish -/

/-- On this platform the bus of the framework rejects every event. -/
def rejectingRuntime : OutboxRuntime :=
  { ticketRuntime with cqrsPublish := fun _ => .error "no handler" }

/-- The event is added, a processor takes it and fails to publish it. -/
def rejectedDelivery : List (Action outbox OutboxExternal) :=
  [.call (.addMany [ticketOpened]), .resume 0, .answer 0 (.addMany [ticketRow]) (.ok ()), .resume 0,
    .call (.processOutbox 1), .resume 1, .answer 1 (.getPending 1 100) (.ok [ticketRow]), .resume 1,
    .answer 1 (.markAsProcessing 1 "e-1") (.ok true), .resume 1]

/-- The connection is lost before `markAsFailed`. -/
def strandedDelivery : List (Action outbox OutboxExternal) :=
  rejectedDelivery ++
    [.answer 1 (.markAsFailed 1 "e-1" "no handler") (.failed false "connection lost"), .resume 1]

/-- The failed entry is reset. -/
def resetDelivery : List (Action outbox OutboxExternal) :=
  rejectedDelivery ++
    [.answer 1 (.markAsFailed 1 "e-1" "no handler") (.ok ()), .resume 1,
      .answer 1 (.resetForRetry 1 3) (.ok 1), .resume 1]

/-- No handler has had the event. -/
def publishesNothing (entry : OutboxTraceEntry) : Bool :=
  match entry.event with
  | .marked (.published _ true) => false
  | _ => true

/-- The entry is in processing, nobody is inside of it, and no batch will ever see it. -/
theorem stranded_entry : ∃ p, Reachable (outboxSystem rejectingRuntime false) emptyOutbox p ∧
    ∃ row ∈ p.snapshot.state.rows, Owed rejectingRuntime.config.maxRetries p.snapshot.trace row ∧
      row.status = .processing ∧ ¬ Held p.snapshot row.id := by
  have reached := reachable_run (outboxSystem rejectingRuntime false) emptyOutbox strandedDelivery
    (by decide +kernel)
  refine ⟨_, reached, { ticketRow with status := .processing }, by decide +kernel, ⟨?_, by decide⟩,
    rfl, ?_⟩
  · have unpublished : ((((Pool.initial emptyOutbox).run (outboxSystem rejectingRuntime false)
        strandedDelivery).get (by decide +kernel)).snapshot.trace.all publishesNothing) = true := by
      decide +kernel
    rintro ⟨entry, member, published⟩
    have spared := List.all_eq_true.mp unpublished entry member
    rw [publishesNothing, published] at spared
    cases spared
  · have foreign : ((((Pool.initial emptyOutbox).run (outboxSystem rejectingRuntime false)
        strandedDelivery).get (by decide +kernel)).snapshot.trace.all fun entry =>
          entry.tid ≤ 1) = true := by decide +kernel
    rintro ⟨tid, processor, inside, -⟩
    have outside (held : (Option.isSome (watchOf (ownEntries tid
        ((((Pool.initial emptyOutbox).run (outboxSystem rejectingRuntime false)
          strandedDelivery).get (by decide +kernel)).snapshot.trace))).inside) = false) :
        False := by
      rw [inside] at held
      cases held
    rcases tid with _ | _ | tid
    · exact outside (by decide +kernel)
    · exact outside (by decide +kernel)
    · rw [ownEntries_eq_nil] at inside
      · cases inside
      · intro entry member own
        have bound := of_decide_eq_true (List.all_eq_true.mp foreign entry member)
        omega

/-- Where `markAsFailed` succeeds, the entry is pending again after the batch. -/
theorem none_stuck_reset : ∃ p, Reachable (outboxSystem rejectingRuntime true) emptyOutbox p ∧
    p.snapshot.state.rows.map OutboxEntry.status = [.pending] ∧
      NoneStuck rejectingRuntime.config.maxRetries p.snapshot ∧ ResetWhereSmooth p.snapshot.trace ∧
        ∀ action next, p.step (outboxSystem rejectingRuntime true) action = some next →
          ResetsReturn rejectingRuntime p action next := by
  have run : ReachableUnder (outboxSystem rejectingRuntime true)
      (LeavesNone rejectingRuntime.config.maxRetries) emptyOutbox
      (((Pool.initial emptyOutbox).run (outboxSystem rejectingRuntime true) resetDelivery).get
        (by decide +kernel)) :=
    reachableUnder_run resetDelivery (by simp [resetDelivery, rejectedDelivery, LeavesNone]) _
  have idle : ∀ row ∈ emptyOutbox.rows, row.status ≠ .processing := by simp [emptyOutbox]
  have stuck := none_stuck idle run.reachable
  exact ⟨_, run.reachable, by decide +kernel, stuck.1 run, stuck.2⟩

end SelfService
