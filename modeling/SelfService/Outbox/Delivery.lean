/-
What a processed entry stands for.

A task marks an entry as processed at the end of an attempt: it read the entry from
the table, parsed it and waited for all the handlers that were subscribed.  How the
handlers came out it does not ask.
-/

import SelfService.EventLoop.Observer
import SelfService.Outbox.Exclusion

namespace SelfService

open EventLoop

/-! ### Attempts -/

/-- One attempt to publish an entry: the handlers of the event, and how they came out. -/
structure PublishAttempt where
  id : String
  event : DomainEvent
  handlers : List String
  outcomes : List (Except String Unit)

def PublishAttempt.observe : Option PublishAttempt → OutboxEvent → Option PublishAttempt
  | _, .marked (.publishing id event handlers) => some ⟨id, event, handlers, []⟩
  | some attempt, .answered (.handle _ event handlers) (Reply.ok outcomes) =>
      if event = attempt.event ∧ handlers = attempt.handlers then some { attempt with outcomes }
      else some attempt
  | attempt, _ => attempt

/-- The last attempt among the entries of a task. -/
def lastAttempt (own : OutboxTrace) : Option PublishAttempt :=
  observation PublishAttempt.observe none own

theorem lastAttempt_snoc (own : OutboxTrace) (entry : OutboxTraceEntry) :
    lastAttempt (own ++ [entry]) = PublishAttempt.observe (lastAttempt own) entry.event :=
  observation_snoc _ _ _ _

/-- Every handler of the attempt has come out. -/
def PublishAttempt.Settled (attempt : PublishAttempt) : Prop :=
  attempt.outcomes.length = attempt.handlers.length

/-- Every handler of the attempt completed without an error. -/
def PublishAttempt.Completed (attempt : PublishAttempt) : Prop :=
  attempt.Settled ∧ ∀ outcome ∈ attempt.outcomes, outcome = .ok ()

/-- The task read this entry from the table. -/
def ReadEntry (own : OutboxTrace) (id payload : String) : Prop :=
  ∃ entry ∈ own, ∃ processor limit batch,
    entry.event = .answered (.getPending processor limit) (Reply.ok batch) ∧
      ∃ row ∈ batch, row.id = id ∧ row.payload = payload

theorem ReadEntry.mono {own later : OutboxTrace} {id payload : String}
    (fetched : ReadEntry own id payload) (grown : own <+: later) : ReadEntry later id payload := by
  obtain ⟨entry, member, rest⟩ := fetched
  exact ⟨entry, grown.subset member, rest⟩

/-- The last attempt of the task was to publish the event of this entry, and is over. -/
structure Tried (runtime : OutboxRuntime) (own : OutboxTrace) (id : String)
    (attempt : PublishAttempt) : Prop where
  latest : lastAttempt own = some attempt
  same : attempt.id = id
  fetched : ∃ payload, ReadEntry own id payload ∧ runtime.parse payload = .ok attempt.event
  settled : attempt.Settled

/-- What a task may tell the table. -/
def DeliveryLaw (runtime : OutboxRuntime) : Law outbox Unit := fun own entry =>
  match entry.event with
  | .answered (.markAsProcessed _ id _) _ => ∃ attempt, Tried runtime own id attempt
  | .answered (.addMany rows) _ => ∀ row ∈ rows, row.status = .pending
  | _ => True

section Attempts

variable {runtime : OutboxRuntime} {lossy : Bool} {tid : Nat} {state : OutboxState}
  {past : OutboxTrace}

abbrev Delivers (runtime : OutboxRuntime) (lossy : Bool) (tid : Nat) {α : Type}
    (post : Except Exn α → OutboxTrace → Prop) (task : OutboxTask α) (state : OutboxState)
    (past : OutboxTrace) : Prop :=
  Obeys (outboxSystem runtime lossy) tid (DeliveryLaw runtime)
    (fun result _ all => past <+: all ∧ post result all) task state past

/-- A request that the law allows. -/
theorem delivers_outboxAsk {request : OutboxRequest}
    {post : Except Exn request.Value → OutboxTrace → Prop}
    (lawful : ∀ time reply, DeliveryLaw runtime past ⟨tid, time, .answered request reply⟩)
    (ended : ∀ rows time value, returns rows request value = true →
      post (.ok value) (past ++ [⟨tid, time, .answered request (Reply.ok value)⟩]))
    (failed : ∀ time applied reason, post (.error (.error reason))
      (past ++ [⟨tid, time, .answered request (Reply.failed applied reason)⟩])) :
    Delivers runtime lossy tid post (outboxAsk request) state past := by
  intro reply before after resumed performed
  refine ⟨lawful _ reply, ?_⟩
  cases reply with
  | ok value =>
      have done : performOutbox lossy before request (.ok value) = some after := performed
      exact ⟨List.prefix_append _ _, ended before.rows _ value (performed_ok done).1⟩
  | failed applied reason => exact ⟨List.prefix_append _ _, failed _ applied reason⟩

/-- After the first task the second one delivers, however the first one grew the trace. -/
theorem Delivers.bind {α β : Type} {task : OutboxTask α} {rest : α → OutboxTask β}
    {middle : Except Exn α → OutboxTrace → Prop} {post : Except Exn β → OutboxTrace → Prop}
    (first : Delivers runtime lossy tid middle task state past)
    (failed : ∀ error all, past <+: all → middle (.error error) all → post (.error error) all)
    (next : ∀ value last all, past <+: all → middle (.ok value) all →
      Delivers runtime lossy tid post (rest value) last all) :
    Delivers runtime lossy tid post (task >>= rest) state past := by
  unfold Delivers
  rw [obeys_bind]
  apply first.mono
  rintro result last all ⟨grown, ended⟩
  cases result with
  | error error => exact ⟨grown, failed error all grown ended⟩
  | ok value =>
      apply (next value last all grown ended).mono
      exact fun _ _ _ held => ⟨grown.trans held.1, held.2⟩

theorem Delivers.attempt {α : Type} {task : OutboxTask α}
    {post : Except Exn (Except Exn α) → OutboxTrace → Prop}
    (first : Delivers runtime lossy tid (fun result all => post (.ok result) all) task state past) :
    Delivers runtime lossy tid post task.attempt state past :=
  (obeys_attempt _ task state past).mpr first

theorem Delivers.weaken {α : Type} {task : OutboxTask α}
    {post weaker : Except Exn α → OutboxTrace → Prop}
    (first : Delivers runtime lossy tid post task state past)
    (imp : ∀ result all, post result all → weaker result all) :
    Delivers runtime lossy tid weaker task state past :=
  first.mono fun result _ all held => ⟨held.1, imp result all held.2⟩

/-- Publishing that resolves has waited for every handler. -/
theorem publish_delivers {processor : Nat} {id : String} {event : DomainEvent}
    (began : lastAttempt past = some ⟨id, event, state.handlersOf processor event.eventType, []⟩) :
    Delivers runtime lossy tid
      (fun result all => result.isOk = true → ∃ outcomes : List (Except String Unit),
        outcomes.length = (state.handlersOf processor event.eventType).length ∧
        lastAttempt all = some ⟨id, event, state.handlersOf processor event.eventType, outcomes⟩)
      (EventBus.publish runtime processor event) state past := by
  unfold EventBus.publish
  split
  · exact ⟨List.prefix_refl _, fun resolved => nomatch resolved⟩
  · change Delivers runtime lossy tid _ (ite _ _ _) state past
    split
    · rename_i none
      exact ⟨List.prefix_refl _, fun _ => ⟨[], by rw [none]; rfl, began⟩⟩
    · have waited : Delivers runtime lossy tid
          (fun result all => ∀ outcomes : List (Except String Unit), result = .ok outcomes →
            outcomes.length = (state.handlersOf processor event.eventType).length ∧
            lastAttempt all =
              some ⟨id, event, state.handlersOf processor event.eventType, outcomes⟩)
          (outboxAsk (.handle processor event (state.handlersOf processor event.eventType)))
          state past := by
        refine delivers_outboxAsk (fun _ _ => trivial) ?_ ?_
        · rintro rows time value returned outcomes ⟨⟩
          refine ⟨of_decide_eq_true returned, ?_⟩
          rw [lastAttempt_snoc, began]
          simp [PublishAttempt.observe]
        · exact fun _ _ _ => nofun
      apply waited.bind
      · exact fun _ _ _ _ resolved => nomatch resolved
      · intro outcomes last all _ held
        exact ⟨List.prefix_refl _, fun _ => ⟨outcomes, held outcomes rfl⟩⟩

theorem publishEntry_delivers {processor : Nat} {id payload : String}
    (fetched : ReadEntry past id payload) :
    Delivers runtime lossy tid (fun _ _ => True)
      (OutboxProcessorService.publishEntry runtime processor id payload) state past := by
  unfold OutboxProcessorService.publishEntry
  split
  · exact ⟨List.prefix_refl _, trivial⟩
  · rename_i event parsed
    let began := past ++ [⟨tid, state.now,
      .marked (.publishing id event (state.handlersOf processor event.eventType))⟩]
    have published : Delivers runtime lossy tid
        (fun result all => ∀ outcome, result = .ok outcome → outcome.isOk = true →
          ∃ outcomes : List (Except String Unit),
            outcomes.length = (state.handlersOf processor event.eventType).length ∧
            lastAttempt all =
              some ⟨id, event, state.handlersOf processor event.eventType, outcomes⟩)
        (EventBus.publish runtime processor event).attempt state began := by
      apply Delivers.attempt
      have latest : lastAttempt began =
          some ⟨id, event, state.handlersOf processor event.eventType, []⟩ := by
        rw [lastAttempt_snoc]
        rfl
      apply (publish_delivers latest).weaken
      rintro result all held outcome ⟨⟩ resolved
      exact held resolved
    have tried : Delivers runtime lossy tid (fun _ _ => True)
        ((EventBus.publish runtime processor event).attempt >>= fun outcome => do
          Task.note (.published id outcome.isOk)
          Task.settleWith outcome
          let state ← Task.read
          outboxAsk (.markAsProcessed processor id state.now)) state began := by
      apply published.bind
      · exact fun _ _ _ _ => trivial
      · intro outcome last all grown held
        refine ⟨trivial, ?_⟩
        cases outcome with
        | error error => exact ⟨List.prefix_append _ _, trivial⟩
        | ok value =>
            obtain ⟨outcomes, settled, latest⟩ := held _ rfl rfl
            let told := all ++ [⟨tid, last.now, .marked (.published id true)⟩]
            have attempt : Tried runtime told id
                ⟨id, event, state.handlersOf processor event.eventType, outcomes⟩ := by
              refine ⟨?_, rfl, ⟨payload, ?_, parsed⟩, settled⟩
              · rw [lastAttempt_snoc, latest]
                rfl
              · exact (fetched.mono ((List.prefix_append _ _).trans grown)).mono
                  (List.prefix_append _ _)
            have asked : Delivers runtime lossy tid (fun _ _ => True)
                (outboxAsk (.markAsProcessed processor id last.now)) last told :=
              delivers_outboxAsk (fun _ _ => ⟨_, attempt⟩) (fun _ _ _ _ => trivial)
                fun _ _ _ => trivial
            exact asked.mono fun _ _ _ held => ⟨(List.prefix_append _ _).trans held.1, trivial⟩
    refine ⟨trivial, ?_⟩
    apply Obeys.mono tried
    exact fun _ _ _ held => ⟨(List.prefix_append _ _).trans held.1, trivial⟩

/-- A request that the law allows, whatever comes of it. -/
theorem free_outboxAsk (request : OutboxRequest)
    (free : ∀ time reply, DeliveryLaw runtime past ⟨tid, time, .answered request reply⟩) :
    Delivers runtime lossy tid (fun _ _ => True) (outboxAsk request) state past :=
  delivers_outboxAsk free (fun _ _ _ _ => trivial) fun _ _ _ => trivial

theorem Delivers.andThen {α β : Type} {task : OutboxTask α} {rest : α → OutboxTask β}
    (first : Delivers runtime lossy tid (fun _ _ => True) task state past)
    (next : ∀ value last all, past <+: all →
      Delivers runtime lossy tid (fun _ _ => True) (rest value) last all) :
    Delivers runtime lossy tid (fun _ _ => True) (task >>= rest) state past :=
  first.bind (fun _ _ _ _ => trivial) fun value last all grown _ => next value last all grown

theorem delivers_done {α : Type} (value : α) :
    Delivers runtime lossy tid (fun _ _ => True) (.done value : OutboxTask α) state past :=
  ⟨List.prefix_refl _, trivial⟩

theorem processEntry_delivers {processor : Nat} {id payload : String}
    (fetched : ReadEntry past id payload) :
    Delivers runtime lossy tid (fun _ _ => True)
      (OutboxProcessorService.processEntry runtime processor id payload) state past := by
  unfold OutboxProcessorService.processEntry
  apply (free_outboxAsk (.markAsProcessing processor id) fun _ _ => trivial).andThen
  intro acquired last all grown
  split
  · apply Delivers.andThen (publishEntry_delivers (fetched.mono grown)).attempt
    intro outcome last all _
    split
    · exact delivers_done ()
    · exact free_outboxAsk _ fun _ _ => trivial
  · exact delivers_done ()

theorem processEntries_delivers {processor : Nat} (entries : List OutboxEntry)
    (fetched : ∀ entry ∈ entries, ReadEntry past entry.id entry.payload) :
    Delivers runtime lossy tid (fun _ _ => True)
      (OutboxProcessorService.processEntries runtime processor entries) state past := by
  induction entries generalizing state past with
  | nil => exact delivers_done ()
  | cons entry rest ih =>
      apply (processEntry_delivers (fetched entry (by simp))).andThen
      intro _ last all grown
      apply ih
      exact fun other member => (fetched other (by simp [member])).mono grown

theorem processBatch_delivers {processor : Nat} :
    Delivers runtime lossy tid (fun _ _ => True)
      (OutboxProcessorService.processBatch runtime processor) state past := by
  have read : Delivers runtime lossy tid
      (fun result all => ∀ batch, result = .ok batch →
        ∀ row ∈ batch, ReadEntry all row.id row.payload)
      (outboxAsk (.getPending processor runtime.config.batchSize)) state past := by
    refine delivers_outboxAsk (fun _ _ => trivial) ?_ ?_
    · rintro rows time value returned batch ⟨⟩ row member
      refine ⟨_, List.mem_append_right _ (List.mem_singleton.mpr rfl), ?_⟩
      exact ⟨_, _, _, rfl, row, member, rfl, rfl⟩
    · exact fun _ _ _ => nofun
  unfold OutboxProcessorService.processBatch
  apply read.bind
  · exact fun _ _ _ _ => trivial
  · intro batch last all _ fetched
    split
    · exact delivers_done ()
    · apply (processEntries_delivers batch (fetched batch rfl)).andThen
      intro _ last all _
      apply (free_outboxAsk (.resetForRetry processor runtime.config.maxRetries)
        fun _ _ => trivial).andThen
      exact fun _ _ _ _ => delivers_done ()

theorem addMany_delivers (events : List DomainEvent) :
    Delivers runtime lossy tid (fun _ _ => True) (OutboxRepository.addMany runtime events) state
      past := by
  unfold OutboxRepository.addMany
  split
  · exact delivers_done ()
  · change Delivers runtime lossy tid (fun _ _ => True) (outboxAsk _) state past
    apply free_outboxAsk
    intro time reply row member
    obtain ⟨event, -, rfl⟩ := List.mem_map.mp member
    rfl

theorem outboxBody_delivers (call : OutboxCall) :
    Delivers runtime lossy tid (fun _ _ => True) (outboxBody runtime call) state past := by
  cases call with
  | addMany events => exact addMany_delivers events
  | processOutbox processor =>
      change Delivers runtime lossy tid (fun _ _ => True) (ite _ _ _) state past
      split
      · exact delivers_done ()
      · have processed : Delivers runtime lossy tid (fun _ _ => True)
            (OutboxProcessorService.processBatch runtime processor).attempt
            { state with processing := processor :: state.processing } past :=
          processBatch_delivers.attempt
        exact processed.andThen fun _ last all _ => ⟨List.prefix_refl _, trivial⟩
  | cleanupOldEntries processor =>
      have deleted : Delivers runtime lossy tid (fun _ _ => True)
          (outboxAsk (.deleteProcessed processor
            (state.now - runtime.config.retentionPeriodMs))).attempt state past := by
        apply Delivers.attempt
        exact free_outboxAsk _ fun _ _ => trivial
      exact deleted.andThen fun _ _ _ _ => delivers_done ()

theorem outbox_lawful (call : OutboxCall) :
    Lawful (outboxSystem runtime lossy) (DeliveryLaw runtime) tid call where
  starts _ := trivial
  obeys _ _ := Obeys.mono (outboxBody_delivers call) fun _ _ _ _ _ => trivial

/-! ### The handlers that are subscribed -/

/-- The marks that came on top name the handlers that are subscribed in this process. -/
def Lists (processor : Nat) (start last : OutboxSnapshot) : Prop :=
  last.state.customHandlers = start.state.customHandlers ∧
    ∃ added, last.trace = start.trace ++ added ∧ ∀ entry ∈ added, ∀ id event handlers,
      entry.event = .marked (.publishing id event handlers) →
        handlers = start.state.handlersOf processor event.eventType

theorem Lists.refl (processor : Nat) (s : OutboxSnapshot) : Lists processor s s :=
  ⟨rfl, [], (List.append_nil _).symm, fun _ member => nomatch member⟩

def ListsLaw : OutboxCall → TurnLaw outbox Unit
  | .processOutbox processor => fun start _ last => Lists processor start last
  | _ => fun _ _ _ => True

/-- In every turn of the task the marks name the handlers that are subscribed. -/
abbrev ListsHandlers (runtime : OutboxRuntime) (lossy : Bool) (tid processor : Nat) {α : Type}
    (task : OutboxTask α) (start s : OutboxSnapshot) : Prop :=
  Turns (outboxSystem runtime lossy) tid (ListsLaw (.processOutbox processor))
    (fun _ start last => Lists processor start last) task start s

variable {processor : Nat} {start s : OutboxSnapshot}

theorem ListsHandlers.bind {α β : Type} {task : OutboxTask α} {rest : α → OutboxTask β}
    (first : ListsHandlers runtime lossy tid processor task start s)
    (next : ∀ value start last, Lists processor start last →
      ListsHandlers runtime lossy tid processor (rest value) start last) :
    ListsHandlers runtime lossy tid processor (task >>= rest) start s :=
  first.andThen (fun _ _ _ held => held) next

theorem ListsHandlers.attempt {α : Type} {task : OutboxTask α}
    (first : ListsHandlers runtime lossy tid processor task start s) :
    ListsHandlers runtime lossy tid processor task.attempt start s :=
  (turns_attempt _ task start s).mpr first

theorem lists_outboxAsk (request : OutboxRequest) (held : Lists processor start s) :
    ListsHandlers runtime lossy tid processor (outboxAsk request) start s := by
  refine ⟨held, ?_⟩
  intro reply before after resumed _
  cases reply with
  | ok value => exact .refl processor _
  | failed applied reason => exact .refl processor _

theorem Lists.marked {label : OutboxMark} (held : Lists processor start s)
    (named : ∀ id event handlers, label = .publishing id event handlers →
      handlers = s.state.handlersOf processor event.eventType) :
    Lists processor start (s.log (outboxSystem runtime lossy) tid (.marked label)) := by
  obtain ⟨same, added, grown, listed⟩ := held
  refine ⟨same, added ++ [_], by rw [Snapshot.log_trace, grown, List.append_assoc], ?_⟩
  intro entry member id event handlers marked
  rcases List.mem_append.mp member with old | new
  · exact listed entry old id event handlers marked
  · rw [List.mem_singleton.mp new] at marked
    cases marked
    rw [named id event handlers rfl, OutboxState.handlersOf, same]
    rfl

theorem publish_lists (event : DomainEvent) (held : Lists processor start s) :
    ListsHandlers runtime lossy tid processor (EventBus.publish runtime processor event) start
      s := by
  unfold EventBus.publish
  split
  · exact held
  · change ListsHandlers runtime lossy tid processor (ite _ _ _) start s
    split
    · exact held
    · exact (lists_outboxAsk _ held).bind fun _ _ _ held => held

theorem publishEntry_lists (id payload : String) (held : Lists processor start s) :
    ListsHandlers runtime lossy tid processor
      (OutboxProcessorService.publishEntry runtime processor id payload) start s := by
  unfold OutboxProcessorService.publishEntry
  split
  · exact held
  · rename_i event parsed
    have began : Lists processor start (s.log (outboxSystem runtime lossy) tid
        (.marked (.publishing id event (s.state.handlersOf processor event.eventType)))) := by
      apply held.marked
      rintro _ _ _ ⟨⟩
      rfl
    unfold ListsHandlers
    rw [turns_read, turns_note]
    refine ListsHandlers.bind (publish_lists event began).attempt ?_
    intro outcome start last held
    have ended : Lists processor start (last.log (outboxSystem runtime lossy) tid
        (.marked (.published id outcome.isOk))) := held.marked fun _ _ _ => nofun
    cases outcome with
    | error error => exact ended
    | ok value => exact lists_outboxAsk _ ended

theorem processEntry_lists (id payload : String) (held : Lists processor start s) :
    ListsHandlers runtime lossy tid processor
      (OutboxProcessorService.processEntry runtime processor id payload) start s := by
  unfold OutboxProcessorService.processEntry
  apply (lists_outboxAsk (.markAsProcessing processor id) held).bind
  intro acquired start last held
  split
  · apply ListsHandlers.bind (publishEntry_lists id payload held).attempt
    intro outcome start last held
    split
    · exact held
    · exact lists_outboxAsk _ held
  · exact held

theorem processEntries_lists (entries : List OutboxEntry) (held : Lists processor start s) :
    ListsHandlers runtime lossy tid processor
      (OutboxProcessorService.processEntries runtime processor entries) start s := by
  induction entries generalizing start s with
  | nil => exact held
  | cons entry rest ih =>
      apply (processEntry_lists entry.id entry.payload held).bind
      exact fun _ _ _ held => ih held

theorem processOutbox_lists (held : Lists processor start s) :
    ListsHandlers runtime lossy tid processor
      (OutboxProcessorService.processOutbox runtime processor) start s := by
  change ListsHandlers runtime lossy tid processor (ite _ _ _) start s
  split
  · exact held
  · have began : Lists processor start ⟨{ s.state with
        processing := processor :: s.state.processing }, s.trace⟩ := held
    unfold ListsHandlers
    rw [turns_modify]
    have batch : ListsHandlers runtime lossy tid processor
        (OutboxProcessorService.processBatch runtime processor) start ⟨{ s.state with
          processing := processor :: s.state.processing }, s.trace⟩ := by
      unfold OutboxProcessorService.processBatch
      apply (lists_outboxAsk (.getPending processor runtime.config.batchSize) began).bind
      intro entries start last held
      split
      · exact held
      · apply (processEntries_lists entries held).bind
        intro _ start last held
        apply (lists_outboxAsk (.resetForRetry processor runtime.config.maxRetries) held).bind
        exact fun _ _ _ held => held
    exact ListsHandlers.bind batch.attempt fun _ _ _ held => held

theorem outbox_turnLawful : TurnLawful (outboxSystem runtime lossy) ListsLaw := by
  intro tid call time state
  cases call with
  | addMany events => exact turns_of_forall (fun _ _ _ => trivial) (fun _ _ _ => trivial) _
  | processOutbox processor => exact processOutbox_lists (.refl processor _)
  | cleanupOldEntries processor =>
      exact turns_of_forall (fun _ _ _ => trivial) (fun _ _ _ => trivial) _

end Attempts

/-! ### Whole runs -/

def handlerFails : OutboxEvent → Bool
  | .answered (.handle _ _ _) (Reply.ok outcomes) => outcomes.any fun outcome => !outcome.isOk
  | _ => false

/-- No custom handler fails. -/
def HandlersComplete (trace : OutboxTrace) : Prop :=
  ∀ entry ∈ trace, handlerFails entry.event = false

/-- The outcomes of an attempt are those that its task was told. -/
theorem outcomes_told (own : OutboxTrace) {attempt : PublishAttempt}
    (latest : lastAttempt own = some attempt) :
    attempt.outcomes = [] ∨ ∃ entry ∈ own, ∃ processor,
      entry.event = .answered (.handle processor attempt.event attempt.handlers)
        (Reply.ok attempt.outcomes) := by
  induction own using List.reverseRecOn generalizing attempt with
  | nil => cases latest
  | append_singleton own entry ih =>
      rw [lastAttempt_snoc] at latest
      have older (same : lastAttempt own = some attempt) : attempt.outcomes = [] ∨
          ∃ other ∈ own ++ [entry], ∃ processor,
            other.event = .answered (.handle processor attempt.event attempt.handlers)
              (Reply.ok attempt.outcomes) := by
        rcases ih same with none | ⟨other, member, told⟩
        · exact .inl none
        · exact .inr ⟨other, List.mem_append_left _ member, told⟩
      unfold PublishAttempt.observe at latest
      split at latest
      · cases latest
        exact .inl rfl
      · rename_i before processor event handlers outcomes known told
        split at latest
        · rename_i same
          cases latest
          obtain ⟨rfl, rfl⟩ := same
          exact .inr ⟨entry, by simp, processor, told⟩
        · cases latest
          exact older known
      · exact older latest

theorem Tried.completed {runtime : OutboxRuntime} {own trace : OutboxTrace} {id : String}
    {attempt : PublishAttempt} (tried : Tried runtime own id attempt)
    (part : ∀ entry ∈ own, entry ∈ trace) (complete : HandlersComplete trace) : attempt.Completed := by
  refine ⟨tried.settled, ?_⟩
  intro outcome member
  rcases outcomes_told own tried.latest with none | ⟨entry, told, processor, event⟩
  · rw [none] at member
    cases member
  · have fine := complete entry (part entry told)
    rw [event, handlerFails, List.any_eq_false] at fine
    cases outcome with
    | ok value => rfl
    | error message => exact absurd rfl (fine _ member)

/-- An entry becomes processed only at the end of an attempt in which all handlers completed. -/
def ProcessedOnlyIfDelivered (runtime : OutboxRuntime) (p : Pool outbox Unit)
    (action : Action outbox OutboxExternal) (next : Pool outbox Unit) : Prop :=
  ∀ row ∈ next.snapshot.state.rows, row.status = .processed →
    (∃ old ∈ p.snapshot.state.rows, old.id = row.id ∧ old.status = .processed) ∨
    ∃ tid processor processedAt reply attempt,
      action = .answer tid (.markAsProcessed processor row.id processedAt) reply ∧
        Tried runtime (ownEntries tid p.snapshot.trace) row.id attempt ∧ attempt.Completed

/-- What the resumed processor marks as published lists the handlers subscribed with it. -/
def ListsSubscribed (p : Pool outbox Unit) (action : Action outbox OutboxExternal)
    (next : Pool outbox Unit) : Prop :=
  ∀ tid processor task, action = .resume tid →
    p.threads[tid]? = some (.running (.processOutbox processor) task) →
      Lists processor (p.snapshot.own tid) (next.snapshot.own tid)

section Runs

variable {runtime : OutboxRuntime} {lossy : Bool} {state : OutboxState} {p next : Pool outbox Unit}
  {action : Action outbox OutboxExternal}

/-- A statement makes an entry processed only if it is `markAsProcessed` for it. -/
theorem processed_by {request : OutboxRequest} {reply : Reply request.Value}
    {before after : OutboxState}
    (performed : performOutbox lossy before request reply = some after)
    (pending : ∀ rows, request = .addMany rows → ∀ row ∈ rows, row.status = .pending)
    {row : OutboxEntry} (member : row ∈ after.rows) (processed : row.status = .processed) :
    (∃ old ∈ before.rows, old.id = row.id ∧ old.status = .processed) ∨
      ∃ processor processedAt, request = .markAsProcessed processor row.id processedAt := by
  have took : row ∈ before.rows ∨ row ∈ effect request before.rows := by
    unfold performOutbox at performed
    split at performed
    · cases performed
    · cases reply with
      | ok value =>
          simp only [Option.ite_none_right_eq_some, Option.some.injEq] at performed
          obtain ⟨-, rfl⟩ := performed
          exact .inr member
      | failed applied reason =>
          simp only [Option.ite_none_right_eq_some, Option.some.injEq] at performed
          obtain ⟨-, rfl⟩ := performed
          cases applied with
          | true => exact .inr member
          | false => exact .inl member
  have kept (there : row ∈ before.rows) :
      ∃ old ∈ before.rows, old.id = row.id ∧ old.status = .processed :=
    ⟨row, there, rfl, processed⟩
  rcases took with same | there
  · exact .inl (kept same)
  -- An update gives a row another status, or leaves it as it was.
  have updated {selects : OutboxEntry → Bool} {update : OutboxEntry → OutboxEntry}
      (other : ∀ old, (update old).status ≠ .processed)
      (there : row ∈ updateRows selects update before.rows) : row ∈ before.rows := by
    obtain ⟨old, oldMember, rfl⟩ := mem_updateRows.mp there
    split at processed
    · exact absurd processed (other old)
    · rename_i unselected
      rw [if_neg unselected]
      exact oldMember
  cases request with
  | addMany rows =>
      rcases List.mem_append.mp there with old | new
      · exact .inl (kept old)
      · rw [pending rows rfl row new] at processed
        cases processed
  | getPending processor limit => exact .inl (kept there)
  | handle processor event handlers => exact .inl (kept there)
  | markAsProcessing processor id =>
      exact .inl (kept (updated (fun _ => OutboxStatus.noConfusion) there))
  | markAsFailed processor id error =>
      exact .inl (kept (updated (fun _ => OutboxStatus.noConfusion) there))
  | resetForRetry processor maxRetries =>
      exact .inl (kept (updated (fun _ => OutboxStatus.noConfusion) there))
  | deleteProcessed processor olderThan => exact .inl (kept (List.mem_of_mem_filter there))
  | markAsProcessed processor id processedAt =>
      obtain ⟨old, oldMember, rfl⟩ := mem_updateRows.mp there
      split at processed
      · rename_i selected
        have same : old.id = id := of_decide_eq_true selected
        rw [if_pos selected]
        exact .inr ⟨processor, processedAt, by rw [same]⟩
      · rename_i unselected
        rw [if_neg unselected]
        exact .inl ⟨old, oldMember, rfl, processed⟩

/-- The request of an answer was allowed to its task. -/
theorem answer_lawful (reached : Reachable (outboxSystem runtime lossy) state p) {tid time : Nat}
    {request : OutboxRequest} {reply : Reply request.Value}
    (last : next.snapshot.trace = p.snapshot.trace ++ [⟨tid, time, .answered request reply⟩])
    (stepped : p.step (outboxSystem runtime lossy) action = some next) :
    DeliveryLaw runtime (ownEntries tid p.snapshot.trace) ⟨tid, time, .answered request reply⟩ :=
  (reached.step stepped).lawful last fun call _ => outbox_lawful call

theorem listsSubscribed (reached : Reachable (outboxSystem runtime lossy) state p)
    (stepped : p.step (outboxSystem runtime lossy) action = some next) :
    ListsSubscribed p action next := by
  rintro tid processor task rfl found
  by_cases waits : ∃ request rest, task = .await request rest
  · -- A task that still waits does nothing when resumed.
    obtain ⟨request, rest, rfl⟩ := waits
    rw [Pool.step_resume found] at stepped
    cases stepped
    exact .refl processor _
  · have ready (request : OutboxRequest) (rest : Reply request.Value → OutboxTask Unit) :
        task ≠ .await request rest := fun same => waits ⟨request, rest, same⟩
    obtain ⟨stop, last, stopped, listed⟩ := reached.turn outbox_turnLawful found ready stepped
    cases stop with
    | awaits request =>
        rw [stopped.1]
        exact listed
    | ends result =>
        rw [stopped.1, Snapshot.own_log_self]
        obtain ⟨same, added, grown, named⟩ := listed
        refine ⟨same, added ++ [_], by rw [Snapshot.log_trace, grown, List.append_assoc], ?_⟩
        intro entry member id event handlers marked
        rcases List.mem_append.mp member with old | new
        · exact named entry old id event handlers marked
        · rw [List.mem_singleton.mp new] at marked
          cases marked

/-- Where no handler fails, an entry becomes processed only when every handler subscribed to
its event completed. -/
theorem processed_only_if_delivered (reached : Reachable (outboxSystem runtime lossy) state p)
    (complete : HandlersComplete p.snapshot.trace)
    (stepped : p.step (outboxSystem runtime lossy) action = some next) :
    ProcessedOnlyIfDelivered runtime p action next ∧ ListsSubscribed p action next := by
  refine ⟨?_, listsSubscribed reached stepped⟩
  intro row member processed
  have moved := ((reached.leaves outboxBody_leaves).step outboxBody_leaves stepped).2
  have kept (same : next.snapshot.state.rows = p.snapshot.state.rows) :
      ∃ old ∈ p.snapshot.state.rows, old.id = row.id ∧ old.status = .processed :=
    ⟨row, same ▸ member, rfl, processed⟩
  cases action with
  | call call => exact .inl (kept moved)
  | resume tid => exact .inl (kept moved)
  | external event =>
      cases event with
      | tick millis => exact .inl (kept (congrArg OutboxState.rows (Option.some.inj moved)).symm)
      | subscribe subscription =>
          exact .inl (kept (congrArg OutboxState.rows (Option.some.inj moved)).symm)
      | stop processor => exact .inl (kept (congrArg OutboxState.rows (Option.some.inj moved)).symm)
  | answer tid request reply =>
      obtain ⟨after, performed, logged⟩ := moved
      have lawful := answer_lawful reached (congrArg Snapshot.trace logged) stepped
      rw [logged] at member
      have pending (rows : List OutboxEntry) (same : request = .addMany rows) :
          ∀ row ∈ rows, row.status = .pending := by
        subst same
        exact lawful
      rcases processed_by performed pending member processed with
        old | ⟨processor, processedAt, rfl⟩
      · exact .inl old
      · obtain ⟨attempt, tried⟩ := lawful
        refine .inr ⟨tid, processor, processedAt, reply, attempt, rfl, tried, ?_⟩
        exact tried.completed (fun _ own => (mem_ownEntries.mp own).1) complete

end Runs

/-! ### A delivery to one handler -/

/-- A handler is subscribed, the event is added, and a processor has asked it and heard this. -/
def deliveryTo (outcome : Except String Unit) : List (Action outbox OutboxExternal) :=
  [.external (.subscribe ⟨1, "TicketOpened", "notify"⟩), .call (.addMany [ticketOpened]), .resume 0,
    .answer 0 (.addMany [ticketRow]) (.ok ()), .resume 0, .call (.processOutbox 1), .resume 1,
    .answer 1 (.getPending 1 100) (.ok [ticketRow]), .resume 1,
    .answer 1 (.markAsProcessing 1 "e-1") (.ok true), .resume 1,
    .answer 1 (.handle 1 ticketOpened ["notify"]) (.ok [outcome]), .resume 1]

def processTicket : Action outbox OutboxExternal :=
  .answer 1 (.markAsProcessed 1 "e-1" 0) (.ok ())

/-- The handler failed, and the entry is processed all the same. -/
theorem failed_handler_processed : ∃ p next,
    Reachable (faithfulOutbox ticketRuntime) emptyOutbox p ∧
      p.step (faithfulOutbox ticketRuntime) processTicket = some next ∧
        ¬ ProcessedOnlyIfDelivered ticketRuntime p processTicket next := by
  have reached := reachable_run (faithfulOutbox ticketRuntime) emptyOutbox
    (deliveryTo (.error "smtp down")) (by decide +kernel)
  refine ⟨_, _, reached, (Option.some_get (by decide +kernel)).symm, ?_⟩
  intro delivered
  rcases delivered { ticketRow with status := .processed, processedAt := some 0 }
    (by decide +kernel) rfl with
      old | ⟨tid, processor, processedAt, reply, attempt, same, tried, -, told⟩
  · exact absurd old (by decide +kernel)
  · cases same
    have outcomes : (lastAttempt (ownEntries 1 ((((Pool.initial emptyOutbox).run
        (faithfulOutbox ticketRuntime) (deliveryTo (.error "smtp down"))).get
          (by decide +kernel)).snapshot.trace))).map PublishAttempt.outcomes =
        some [.error "smtp down"] := by decide +kernel
    rw [tried.latest] at outcomes
    cases told (.error "smtp down") (by rw [Option.some.inj outcomes]; simp)

/-- The handler completed, and the entry is processed. -/
theorem processed_only_if_delivered_ticket : ∃ p next,
    Reachable (faithfulOutbox ticketRuntime) emptyOutbox p ∧
    p.step (faithfulOutbox ticketRuntime) processTicket = some next ∧
      next.snapshot.state.rows.map OutboxEntry.status = [.processed] ∧
        ProcessedOnlyIfDelivered ticketRuntime p processTicket next ∧
          ListsSubscribed p processTicket next := by
  have reached := reachable_run (faithfulOutbox ticketRuntime) emptyOutbox (deliveryTo (.ok ()))
    (by decide +kernel)
  refine ⟨_, _, reached, (Option.some_get (by decide +kernel)).symm, by decide +kernel, ?_⟩
  have complete : HandlersComplete (((Pool.initial emptyOutbox).run (faithfulOutbox ticketRuntime)
      (deliveryTo (.ok ()))).get (by decide +kernel)).snapshot.trace := by
    unfold HandlersComplete
    decide +kernel
  exact processed_only_if_delivered reached complete (Option.some_get _).symm

end SelfService
