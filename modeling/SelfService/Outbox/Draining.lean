/-
How the outbox empties.

One processor polls a table whose database answers, while events keep arriving.  What
becomes of an attempt depends on the entry alone.  A poll takes the oldest entries first,
so what arrives later delays nothing: every poll takes work off the older part of the
table, and in the end a deliverable entry has been processed and any other has failed as
often as it may.  Only a table without a pending entry is never worked on.
-/

import Mathlib
import SelfService.EventLoop.Alone
import SelfService.Outbox.Exclusion

namespace SelfService

open EventLoop OutboxProcessorService

/-! ### What becomes of an entry -/

/-- What an attempt comes to: the payload has to parse, and the bus has to take the event. -/
def publicationOf (runtime : OutboxRuntime) (row : OutboxEntry) : Except String Unit :=
  (runtime.parse row.payload).bind runtime.cqrsPublish

def afterAttempt (runtime : OutboxRuntime) (now : Nat) (row : OutboxEntry) : OutboxEntry :=
  match publicationOf runtime row with
  | .ok _ => { row with status := .processed, processedAt := some now }
  | .error message =>
      { row with status := .failed, lastError := some message, retryCount := row.retryCount + 1 }

/-- The entries with these identifiers are attempted. -/
def tried (runtime : OutboxRuntime) (now : Nat) (ids : List String) (row : OutboxEntry) :
    OutboxEntry :=
  if row.id ∈ ids then afterAttempt runtime now row else row

def returned (maxRetries : Nat) (row : OutboxEntry) : OutboxEntry :=
  if retriable maxRetries row then { row with status := .pending } else row

/-- What a poll makes of an entry, when its batch has these identifiers. -/
def polled (runtime : OutboxRuntime) (now : Nat) (ids : List String) (row : OutboxEntry) :
    OutboxEntry :=
  returned runtime.config.maxRetries (tried runtime now ids row)

theorem afterAttempt_id (runtime : OutboxRuntime) (now : Nat) (row : OutboxEntry) :
    (afterAttempt runtime now row).id = row.id := by
  unfold afterAttempt
  split
  · rfl
  · rfl

theorem tried_id (runtime : OutboxRuntime) (now : Nat) (ids : List String) (row : OutboxEntry) :
    (tried runtime now ids row).id = row.id := by
  unfold tried
  split
  · exact afterAttempt_id runtime now row
  · rfl

/-! ### One poll -/

/-- The database of a processor answers, and with what the table holds; events are stored or
refused. -/
structure Serves (processor : Nat) (answers : Answering outbox) : Prop where
  polls : ∀ state request, request.processor = some processor →
    (state.rows.map OutboxEntry.id).Nodup →
    ∃ value, answers state request = .ok value ∧ returns state.rows request value = true
  stores : ∀ state rows,
    (answers state (.addMany rows) = Reply.ok () ∧ returns state.rows (.addMany rows) () = true) ∨
      ∃ reason, answers state (.addMany rows) = Reply.failed false reason

section Polls

variable {runtime : OutboxRuntime} {lossy : Bool} {processor : Nat} {answers : Answering outbox}
  {state : OutboxState}

/-- A processor that is up, over a table of different entries. -/
structure Working (processor : Nat) (state : OutboxState) : Prop where
  up : processor ∉ state.stopped
  distinct : (state.rows.map OutboxEntry.id).Nodup

theorem ask_alone (serves : Serves processor answers) (working : Working processor state)
    {request : OutboxRequest} (own : request.processor = some processor) :
    ∃ value, returns state.rows request value = true ∧
      runAlone (outboxSystem runtime lossy) answers (outboxAsk request) state =
        some (.ok value, { state with rows := effect request state.rows }) := by
  obtain ⟨value, answered, valid⟩ := serves.polls state request own working.distinct
  refine ⟨value, valid, ?_⟩
  have performed : (outboxSystem runtime lossy).perform state request (.ok value) =
      some { state with rows := effect request state.rows } := by
    change performOutbox lossy state request (.ok value) = _
    have running : ¬ (state.stopped.contains processor = true) := fun stopped =>
      working.up (List.contains_iff_mem.mp stopped)
    simp only [performOutbox, own, Option.any_some, if_neg running, valid, if_true]
  exact runAlone_await _ _ answered performed

theorem publish_alone (serves : Serves processor answers) (working : Working processor state)
    (event : DomainEvent) :
    runAlone (outboxSystem runtime lossy) answers (EventBus.publish runtime processor event) state =
      some ((runtime.cqrsPublish event).mapError Exn.error, state) := by
  unfold EventBus.publish
  cases taken : runtime.cqrsPublish event with
  | error message => rfl
  | ok done =>
      simp only
      rw [runAlone_read]
      split
      · rfl
      · obtain ⟨outcomes, -, ran⟩ := @ask_alone runtime lossy _ _ _ serves working
          (.handle processor event (state.handlersOf processor event.eventType)) rfl
        rw [runAlone_bind, ran]
        rfl

/-- An entry that can be delivered is, and is marked. -/
theorem publishEntry_delivered (serves : Serves processor answers)
    (working : Working processor state) {row : OutboxEntry}
    (outcome : publicationOf runtime row = .ok ()) :
    runAlone (outboxSystem runtime lossy) answers
        (publishEntry runtime processor row.id row.payload) state =
      some (.ok (), { state with
        rows := effect (.markAsProcessed processor row.id state.now) state.rows }) := by
  unfold publicationOf at outcome
  unfold publishEntry
  cases parsed : runtime.parse row.payload with
  | error message =>
      rw [parsed] at outcome
      cases outcome
  | ok event =>
      rw [parsed] at outcome
      change runtime.cqrsPublish event = .ok () at outcome
      simp only
      rw [runAlone_read, runAlone_note, runAlone_bind, runAlone_attempt,
        publish_alone serves working, outcome]
      obtain ⟨value, -, ran⟩ := @ask_alone runtime lossy _ _ _ serves working
        (.markAsProcessed processor row.id state.now) rfl
      exact ran

/-- An entry that cannot be delivered makes the attempt fail, and stays as it is for now. -/
theorem publishEntry_failed (serves : Serves processor answers)
    (working : Working processor state) {row : OutboxEntry} {message : String}
    (outcome : publicationOf runtime row = .error message) :
    runAlone (outboxSystem runtime lossy) answers
        (publishEntry runtime processor row.id row.payload) state =
      some (.error (.error message), state) := by
  unfold publicationOf at outcome
  unfold publishEntry
  cases parsed : runtime.parse row.payload with
  | error wrong =>
      rw [parsed] at outcome
      cases outcome
      rfl
  | ok event =>
      rw [parsed] at outcome
      change runtime.cqrsPublish event = .error message at outcome
      simp only
      rw [runAlone_read, runAlone_note, runAlone_bind, runAlone_attempt,
        publish_alone serves working, outcome]
      rfl

/-- The row that is locked is the one that is released. -/
theorem released_rows (runtime : OutboxRuntime) (processor : Nat) {rows : List OutboxEntry}
    (distinct : (rows.map OutboxEntry.id).Nodup)
    {row : OutboxEntry} (member : row ∈ rows) (pending : isPending row = true) (now : Nat)
    (release : OutboxEntry → OutboxEntry)
    (attempt : release { row with status := .processing } = afterAttempt runtime now row) :
    updateRows (fun other => other.id = row.id) release
        (effect (.markAsProcessing processor row.id) rows) =
      rows.map (tried runtime now [row.id]) := by
  simp only [effect, updateRows, List.map_map]
  apply List.map_congr_left
  intro other listed
  by_cases same : other.id = row.id
  · have itself := List.inj_on_of_nodup_map distinct listed member same
    subst itself
    simp [tried, pending, attempt]
  · simp [tried, same]

/-- One entry of the batch is attempted, and nothing else changes. -/
theorem processEntry_alone (serves : Serves processor answers) (working : Working processor state)
    {row : OutboxEntry} (member : row ∈ state.rows) (pending : isPending row = true) :
    runAlone (outboxSystem runtime lossy) answers
        (processEntry runtime processor row.id row.payload) state =
      some (.ok (), { state with rows := state.rows.map (tried runtime state.now [row.id]) }) := by
  obtain ⟨acquired, valid, ran⟩ := @ask_alone runtime lossy _ _ _ serves working
    (.markAsProcessing processor row.id) rfl
  have taken : acquired = true := by
    have shown : (state.rows.any fun other => other.id = row.id && isPending other) = true :=
      List.any_eq_true.mpr ⟨row, member, by simp [pending]⟩
    simpa [returns, shown] using valid
  subst taken
  have locked : Working processor
      { state with rows := effect (.markAsProcessing processor row.id) state.rows } := by
    have ids : (effect (.markAsProcessing processor row.id) state.rows).map OutboxEntry.id =
        state.rows.map OutboxEntry.id := ids_updateRows fun _ => rfl
    refine ⟨working.up, ?_⟩
    rw [ids]
    exact working.distinct
  unfold processEntry
  rw [runAlone_bind, ran]
  change runAlone _ _ ((publishEntry runtime processor row.id row.payload).attempt >>= _) _ = _
  rw [runAlone_bind, runAlone_attempt]
  cases outcome : publicationOf runtime row with
  | ok done =>
      have rows := released_rows runtime processor working.distinct member pending state.now
        (fun other => { other with status := .processed, processedAt := some state.now })
        (by simp [afterAttempt, outcome])
      rw [publishEntry_delivered serves locked outcome, ← rows]
      rfl
  | error message =>
      have rows := released_rows runtime processor working.distinct member pending state.now
        (fun other => { other with
          status := .failed, lastError := some message, retryCount := other.retryCount + 1 })
        (by simp [afterAttempt, outcome])
      obtain ⟨done, -, failed⟩ := @ask_alone runtime lossy _ _ _ serves locked
        (.markAsFailed processor row.id message) rfl
      rw [publishEntry_failed serves locked outcome, ← rows]
      exact failed

theorem tried_of_not_mem {now : Nat} {ids : List String} {row : OutboxEntry}
    (absent : row.id ∉ ids) : tried runtime now ids row = row :=
  if_neg absent

theorem tried_of_mem {now : Nat} {ids : List String} {row : OutboxEntry}
    (listed : row.id ∈ ids) : tried runtime now ids row = afterAttempt runtime now row :=
  if_pos listed

/-- An entry is attempted once, however many others follow. -/
theorem tried_cons {now : Nat} {id : String} {ids : List String} (fresh : id ∉ ids)
    (row : OutboxEntry) :
    tried runtime now ids (tried runtime now [id] row) = tried runtime now (id :: ids) row := by
  by_cases same : row.id = id
  · have first : tried runtime now [id] row = afterAttempt runtime now row :=
      tried_of_mem (by simp [same])
    have later : (afterAttempt runtime now row).id ∉ ids := by
      rw [afterAttempt_id, same]
      exact fresh
    have both : tried runtime now (id :: ids) row = afterAttempt runtime now row :=
      tried_of_mem (by simp [same])
    rw [first, tried_of_not_mem later, both]
  · have first : tried runtime now [id] row = row := tried_of_not_mem (by simp [same])
    rw [first]
    by_cases listed : row.id ∈ ids
    · rw [tried_of_mem listed, tried_of_mem (List.mem_cons_of_mem _ listed)]
    · rw [tried_of_not_mem listed, tried_of_not_mem (by simp [same, listed])]

theorem ids_map {change : OutboxEntry → OutboxEntry} (keeps : ∀ row, (change row).id = row.id)
    (rows : List OutboxEntry) :
    (rows.map change).map OutboxEntry.id = rows.map OutboxEntry.id := by
  rw [List.map_map]
  exact List.map_congr_left fun row _ => keeps row

theorem processEntries_alone (serves : Serves processor answers) (batch : List OutboxEntry)
    {state : OutboxState} (working : Working processor state)
    (distinct : (batch.map OutboxEntry.id).Nodup)
    (members : ∀ row ∈ batch, row ∈ state.rows ∧ isPending row = true) :
    runAlone (outboxSystem runtime lossy) answers (processEntries runtime processor batch) state =
      some (.ok (), { state with
        rows := state.rows.map (tried runtime state.now (batch.map OutboxEntry.id)) }) := by
  induction batch generalizing state with
  | nil =>
      have same : state.rows.map (tried runtime state.now []) = state.rows := by
        rw [List.map_congr_left fun row _ => tried_of_not_mem List.not_mem_nil, List.map_id']
      rw [List.map_nil, same]
      rfl
  | cons entry rest ih =>
      rw [List.map_cons, List.nodup_cons] at distinct
      obtain ⟨listed, pending⟩ := members entry List.mem_cons_self
      unfold processEntries
      rw [runAlone_bind, processEntry_alone serves working listed pending]
      have next : Working processor
          { state with rows := state.rows.map (tried runtime state.now [entry.id]) } := by
        refine ⟨working.up, ?_⟩
        change ((state.rows.map _).map OutboxEntry.id).Nodup
        rw [ids_map (tried_id runtime state.now [entry.id])]
        exact working.distinct
      have left : ∀ row ∈ rest,
          row ∈ state.rows.map (tried runtime state.now [entry.id]) ∧ isPending row = true := by
        intro row later
        obtain ⟨held, waits⟩ := members row (List.mem_cons_of_mem _ later)
        have apart : row.id ∉ [entry.id] := by
          intro same
          rw [List.mem_singleton] at same
          exact distinct.1 (same ▸ List.mem_map_of_mem later)
        exact ⟨List.mem_map.mpr ⟨row, held, tried_of_not_mem apart⟩, waits⟩
      change runAlone _ _ (processEntries runtime processor rest) _ = _
      rw [ih next distinct.2 left, List.map_map, List.map_cons]
      congr 4
      funext row
      exact tried_cons distinct.1 row

/-! ### Batches -/

/-- What the database may hand out. -/
structure Batch (rows : List OutboxEntry) (limit : Nat) (batch : List OutboxEntry) : Prop where
  size : batch.length = min limit (rows.filter isPending).length
  distinct : (batch.map OutboxEntry.id).Nodup
  pending : ∀ row ∈ batch, row ∈ rows ∧ isPending row = true
  oldest : ∀ taken ∈ batch, ∀ row ∈ rows, isPending row = true →
    row ∈ batch ∨ taken.createdAt ≤ row.createdAt

theorem batch_of_isBatch {rows batch : List OutboxEntry} {limit : Nat}
    (valid : isBatch rows limit batch = true) : Batch rows limit batch := by
  simp only [isBatch, Bool.and_eq_true, decide_eq_true_eq, List.all_eq_true, Bool.or_eq_true,
    List.contains_iff_mem] at valid
  obtain ⟨⟨size, ordered⟩, each⟩ := valid
  refine ⟨size, ?_, ?_, ?_⟩
  · exact List.pairwise_map.mpr (ordered.imp And.right)
  · intro row taken
    exact List.mem_filter.mp (each row taken).1
  · intro taken listed row held waits
    exact (each taken listed).2 row (List.mem_filter.mpr ⟨held, waits⟩)

theorem processBatch_alone (serves : Serves processor answers)
    (working : Working processor state) :
    ∃ batch, Batch state.rows runtime.config.batchSize batch ∧
      runAlone (outboxSystem runtime lossy) answers (processBatch runtime processor) state =
        some (.ok (), { state with
          rows := if batch = [] then state.rows
            else state.rows.map (polled runtime state.now (batch.map OutboxEntry.id)) }) := by
  obtain ⟨batch, valid, ran⟩ := @ask_alone runtime lossy _ _ _ serves working
    (.getPending processor runtime.config.batchSize) rfl
  have taken := batch_of_isBatch valid
  refine ⟨batch, taken, ?_⟩
  unfold processBatch
  rw [runAlone_bind, ran]
  by_cases empty : batch = []
  · subst empty
    rfl
  · have after : Working processor { state with
        rows := state.rows.map (tried runtime state.now (batch.map OutboxEntry.id)) } := by
      refine ⟨working.up, ?_⟩
      change ((state.rows.map _).map OutboxEntry.id).Nodup
      rw [ids_map (tried_id runtime state.now _)]
      exact working.distinct
    obtain ⟨count, -, reset⟩ := @ask_alone runtime lossy _ _ _ serves after
      (.resetForRetry processor runtime.config.maxRetries) rfl
    simp only [Option.bind_some, if_neg empty]
    rw [runAlone_bind]
    change ((runAlone _ _ (processEntries runtime processor batch) state).bind _) = _
    rw [processEntries_alone serves batch working taken.distinct taken.pending]
    simp only [Option.bind_some]
    rw [runAlone_bind, reset]
    simp only [Option.bind_some, effect, updateRows, List.map_map]
    rfl

/-- A processor that may poll. -/
structure Resting (processor : Nat) (state : OutboxState) : Prop
    extends Working processor state where
  idle : processor ∉ state.processing

/-- A poll attempts one batch, and then every failed entry waits again that may. -/
theorem processOutbox_alone (serves : Serves processor answers)
    (resting : Resting processor state) :
    ∃ batch, Batch state.rows runtime.config.batchSize batch ∧
      runAlone (outboxSystem runtime lossy) answers (processOutbox runtime processor) state =
        some (.ok (), { state with
          rows := if batch = [] then state.rows
            else state.rows.map (polled runtime state.now (batch.map OutboxEntry.id)) }) := by
  have working : Working processor
      { state with processing := processor :: state.processing } := ⟨resting.up, resting.distinct⟩
  obtain ⟨batch, taken, ran⟩ := @processBatch_alone runtime lossy _ _ _ serves working
  refine ⟨batch, taken, ?_⟩
  have released : (processor :: state.processing).filter (fun other => other ≠ processor) =
      state.processing := by
    rw [List.filter_cons_of_neg (by simp)]
    exact List.filter_eq_self.mpr fun other listed =>
      decide_eq_true fun same => resting.idle (same ▸ listed)
  unfold processOutbox
  rw [runAlone_read, if_neg fun busy => resting.idle (List.contains_iff_mem.mp busy),
    runAlone_modify, runAlone_bind, runAlone_attempt, ran]
  simp only [Option.map_some, Option.bind_some]
  change some (Except.ok (), { state with processing := _, rows := _ }) = _
  rw [released]

end Polls

/-! ### What is left to do -/

section Effort

variable {runtime : OutboxRuntime}

/-- An entry that is to be attempted, now or after the next reset. -/
def outstanding (maxRetries : Nat) (row : OutboxEntry) : Bool :=
  isPending row || retriable maxRetries row

/-- How often an entry will be attempted. -/
def effort (runtime : OutboxRuntime) (row : OutboxEntry) : Nat :=
  if outstanding runtime.config.maxRetries row then
    match publicationOf runtime row with
    | .ok _ => 1
    | .error _ => max 1 (runtime.config.maxRetries - row.retryCount)
  else 0

/-- Where an entry comes to rest, when it is delivered at this time if it can be. -/
def settled (runtime : OutboxRuntime) (time : Nat) (row : OutboxEntry) : OutboxEntry :=
  if outstanding runtime.config.maxRetries row then
    match publicationOf runtime row with
    | .ok _ => { row with status := .processed, processedAt := some time }
    | .error message =>
        { row with
          status := .failed
          lastError := some message
          retryCount := max (row.retryCount + 1) runtime.config.maxRetries }
  else row

theorem settled_of_effort_zero {row : OutboxEntry} (rest : effort runtime row = 0) (time : Nat) :
    settled runtime time row = row := by
  unfold effort at rest
  split at rest
  · split at rest
    · cases rest
    · omega
  · rename_i done
    exact if_neg done

theorem polled_of_not_mem {now : Nat} {ids : List String} {row : OutboxEntry}
    (absent : row.id ∉ ids) :
    polled runtime now ids row = returned runtime.config.maxRetries row := by
  unfold polled
  rw [tried_of_not_mem absent]

theorem polled_of_mem {now : Nat} {ids : List String} {row : OutboxEntry}
    (listed : row.id ∈ ids) :
    polled runtime now ids row =
      returned runtime.config.maxRetries (afterAttempt runtime now row) := by
  unfold polled
  rw [tried_of_mem listed]

/-- To return an entry is not to work on it. -/
theorem effort_returned (row : OutboxEntry) :
    effort runtime (returned runtime.config.maxRetries row) = effort runtime row := by
  unfold returned
  cases again : retriable runtime.config.maxRetries row with
  | false => rfl
  | true => simp [effort, outstanding, again, isPending, publicationOf]

theorem settled_returned (time : Nat) (row : OutboxEntry) :
    settled runtime time (returned runtime.config.maxRetries row) = settled runtime time row := by
  unfold returned
  cases again : retriable runtime.config.maxRetries row with
  | false => rfl
  | true =>
      simp only [settled, outstanding, again, isPending, publicationOf, if_true, decide_true,
        Bool.true_or, Bool.or_true]

theorem outstanding_of_pending (maxRetries : Nat) {row : OutboxEntry}
    (pending : isPending row = true) : outstanding maxRetries row = true := by
  unfold outstanding
  rw [pending, Bool.true_or]

theorem outstanding_failed (maxRetries : Nat) (row : OutboxEntry) :
    outstanding maxRetries { row with status := .failed } =
      decide (row.retryCount < maxRetries) := by
  simp [outstanding, isPending, retriable]

/-- Every attempt is one less to come. -/
theorem effort_afterAttempt (runtime : OutboxRuntime) (now : Nat) {row : OutboxEntry}
    (pending : isPending row = true) :
    effort runtime (afterAttempt runtime now row) + 1 = effort runtime row := by
  have waits := outstanding_of_pending runtime.config.maxRetries pending
  unfold afterAttempt
  cases outcome : publicationOf runtime row with
  | ok done =>
      have rest : outstanding runtime.config.maxRetries
          { row with status := .processed, processedAt := some now } = false := rfl
      simp only [effort, rest, waits, outcome, if_true, Bool.false_eq_true, if_false]
  | error message =>
      have same : publicationOf runtime { row with
          status := .failed, lastError := some message, retryCount := row.retryCount + 1 } =
          .error message := outcome
      have again := outstanding_failed runtime.config.maxRetries
        { row with lastError := some message, retryCount := row.retryCount + 1 }
      simp only [effort, again, same, waits, outcome, if_true]
      by_cases more : row.retryCount + 1 < runtime.config.maxRetries
      · simp only [more, decide_true, if_true]
        omega
      · simp only [more, decide_false, Bool.false_eq_true, if_false]
        omega

/-- Where an entry comes to rest is decided before it is attempted. -/
theorem settled_afterAttempt (runtime : OutboxRuntime) (now time : Nat) {row : OutboxEntry}
    (pending : isPending row = true) :
    ∃ moment, settled runtime time (afterAttempt runtime now row) = settled runtime moment row := by
  have waits := outstanding_of_pending runtime.config.maxRetries pending
  unfold afterAttempt
  cases outcome : publicationOf runtime row with
  | ok done =>
      have rest : outstanding runtime.config.maxRetries
          { row with status := .processed, processedAt := some now } = false := rfl
      refine ⟨now, ?_⟩
      simp only [settled, rest, waits, outcome, if_true, Bool.false_eq_true, if_false]
  | error message =>
      have same : publicationOf runtime { row with
          status := .failed, lastError := some message, retryCount := row.retryCount + 1 } =
          .error message := outcome
      have again := outstanding_failed runtime.config.maxRetries
        { row with lastError := some message, retryCount := row.retryCount + 1 }
      refine ⟨time, ?_⟩
      simp only [settled, again, same, waits, outcome, if_true]
      by_cases more : row.retryCount + 1 < runtime.config.maxRetries
      · have most : max (row.retryCount + 1 + 1) runtime.config.maxRetries =
            max (row.retryCount + 1) runtime.config.maxRetries := by omega
        simp only [more, decide_true, if_true, most]
      · have most : max (row.retryCount + 1) runtime.config.maxRetries = row.retryCount + 1 := by
          omega
        simp only [more, decide_false, Bool.false_eq_true, if_false, most]

/-- The attempts that the older part of the table still takes. -/
def backlog (runtime : OutboxRuntime) (newest : Nat) (rows : List OutboxEntry) : Nat :=
  ((rows.filter fun row => row.createdAt ≤ newest).map (effort runtime)).sum

theorem effort_le_backlog (runtime : OutboxRuntime) {newest : Nat} {rows : List OutboxEntry}
    {row : OutboxEntry} (member : row ∈ rows) (old : row.createdAt ≤ newest) :
    effort runtime row ≤ backlog runtime newest rows :=
  List.single_le_sum (fun _ _ => Nat.zero_le _) _
    (List.mem_map_of_mem (List.mem_filter.mpr ⟨member, decide_eq_true old⟩))

theorem createdAt_polled (now : Nat) (ids : List String) (row : OutboxEntry) :
    (polled runtime now ids row).createdAt = row.createdAt := by
  unfold polled returned tried afterAttempt
  split <;> split <;> try split
  all_goals rfl

theorem backlog_map {newest : Nat} {change : OutboxEntry → OutboxEntry}
    (keeps : ∀ row, (change row).createdAt = row.createdAt) (rows : List OutboxEntry) :
    backlog runtime newest (rows.map change) =
      ((rows.filter fun row => row.createdAt ≤ newest).map fun row =>
        effort runtime (change row)).sum := by
  unfold backlog
  rw [List.filter_map, List.map_map]
  simp only [Function.comp_def, keeps]

theorem backlog_append (runtime : OutboxRuntime) {newest : Nat} (rows : List OutboxEntry)
    {added : List OutboxEntry} (young : ∀ row ∈ added, newest < row.createdAt) :
    backlog runtime newest (rows ++ added) = backlog runtime newest rows := by
  have none : added.filter (fun row => row.createdAt ≤ newest) = [] :=
    List.filter_eq_nil_iff.mpr fun row listed old =>
      Nat.lt_irrefl _ ((young row listed).trans_le (of_decide_eq_true old))
  unfold backlog
  rw [List.filter_append, none, List.append_nil]

/-- Nothing waits for a reset. -/
def Unfailed (maxRetries : Nat) (rows : List OutboxEntry) : Prop :=
  ∀ row ∈ rows, retriable maxRetries row = false

theorem retriable_returned (maxRetries : Nat) (row : OutboxEntry) :
    retriable maxRetries (returned maxRetries row) = false := by
  unfold returned
  cases again : retriable maxRetries row with
  | false => exact again
  | true => simp [retriable]

section Taken

variable {limit : Nat} {rows batch : List OutboxEntry}

theorem Batch.mem_ids (taken : Batch rows limit batch) (distinct : (rows.map OutboxEntry.id).Nodup)
    {row : OutboxEntry} (member : row ∈ rows) (listed : row.id ∈ batch.map OutboxEntry.id) :
    row ∈ batch := by
  obtain ⟨other, held, same⟩ := List.mem_map.mp listed
  have itself := List.inj_on_of_nodup_map distinct (taken.pending other held).1 member same
  exact itself ▸ held

theorem Batch.effort_le (taken : Batch rows limit batch) (runtime : OutboxRuntime) (now : Nat)
    (distinct : (rows.map OutboxEntry.id).Nodup) {row : OutboxEntry} (member : row ∈ rows) :
    effort runtime (polled runtime now (batch.map OutboxEntry.id) row) ≤ effort runtime row := by
  by_cases listed : row.id ∈ batch.map OutboxEntry.id
  · have pending := (taken.pending row (taken.mem_ids distinct member listed)).2
    have attempt := effort_afterAttempt runtime now pending
    rw [polled_of_mem listed, effort_returned]
    omega
  · rw [polled_of_not_mem listed, effort_returned]

/-- A poll puts no work on the table. -/
theorem Batch.backlog_le (taken : Batch rows limit batch) (runtime : OutboxRuntime)
    (newest now : Nat) (distinct : (rows.map OutboxEntry.id).Nodup) :
    backlog runtime newest (rows.map (polled runtime now (batch.map OutboxEntry.id))) ≤
      backlog runtime newest rows := by
  rw [backlog_map (createdAt_polled now _)]
  exact List.sum_le_sum fun row listed =>
    taken.effort_le runtime now distinct (List.mem_of_mem_filter listed)

/-- While an older entry is pending, one of them is attempted. -/
theorem Batch.takes_old (taken : Batch rows limit batch) (room : 0 < limit) {newest : Nat}
    {row : OutboxEntry} (member : row ∈ rows) (pending : isPending row = true)
    (old : row.createdAt ≤ newest) :
    ∃ first ∈ batch, first.createdAt ≤ newest := by
  have some : batch ≠ [] := by
    intro empty
    have size := taken.size
    have waits : 0 < (rows.filter isPending).length :=
      List.length_pos_of_mem (List.mem_filter.mpr ⟨member, pending⟩)
    rw [empty, List.length_nil] at size
    omega
  obtain ⟨first, listed⟩ := List.exists_mem_of_ne_nil batch some
  rcases taken.oldest first listed row member pending with held | before
  · exact ⟨row, held, old⟩
  · exact ⟨first, listed, before.trans old⟩

theorem Batch.backlog_lt (taken : Batch rows limit batch) (runtime : OutboxRuntime) (now : Nat)
    (room : 0 < limit) (distinct : (rows.map OutboxEntry.id).Nodup) {newest : Nat}
    {row : OutboxEntry} (member : row ∈ rows) (pending : isPending row = true)
    (old : row.createdAt ≤ newest) :
    backlog runtime newest (rows.map (polled runtime now (batch.map OutboxEntry.id))) <
      backlog runtime newest rows := by
  obtain ⟨first, listed, early⟩ := taken.takes_old room member pending old
  obtain ⟨held, waits⟩ := taken.pending first listed
  rw [backlog_map (createdAt_polled now _)]
  refine List.sum_lt_sum _ _ (fun row listed =>
    taken.effort_le runtime now distinct (List.mem_of_mem_filter listed)) ⟨first, ?_, ?_⟩
  · exact List.mem_filter.mpr ⟨held, decide_eq_true early⟩
  · have attempt := effort_afterAttempt runtime now waits
    rw [polled_of_mem (List.mem_map_of_mem listed), effort_returned]
    omega

theorem Batch.settled_polled (taken : Batch rows limit batch) (runtime : OutboxRuntime)
    (now : Nat) (distinct : (rows.map OutboxEntry.id).Nodup) {row : OutboxEntry}
    (member : row ∈ rows) (time : Nat) :
    ∃ moment, settled runtime time (polled runtime now (batch.map OutboxEntry.id) row) =
      settled runtime moment row := by
  by_cases listed : row.id ∈ batch.map OutboxEntry.id
  · have pending := (taken.pending row (taken.mem_ids distinct member listed)).2
    rw [polled_of_mem listed, settled_returned]
    exact settled_afterAttempt runtime now time pending
  · rw [polled_of_not_mem listed, settled_returned]
    exact ⟨time, rfl⟩

end Taken

end Effort

/-! ### Rounds -/

/-- Before a poll some time passes, and the application may store events. -/
structure Interval where
  millis : Nat
  events : List DomainEvent

section Rounds

variable {runtime : OutboxRuntime} {processor : Nat} {answers : Answering outbox}

def rounds (runtime : OutboxRuntime) (processor : Nat) (answers : Answering outbox) :
    List Interval → OutboxState → Option OutboxState
  | [], state => some state
  | interval :: later, state =>
      (runAlone (outboxSystem runtime false) answers
        (OutboxRepository.addMany runtime interval.events)
        { state with now := state.now + interval.millis }).bind fun stored =>
          (runAlone (outboxSystem runtime false) answers (processOutbox runtime processor)
            stored.2).bind fun ended => rounds runtime processor answers later ended.2

/-- Events are stored as pending entries of this moment, or not at all. -/
theorem addMany_alone (serves : Serves processor answers) (events : List DomainEvent)
    {state : OutboxState} (resting : Resting processor state) :
    ∃ outcome added,
      runAlone (outboxSystem runtime false) answers
          (OutboxRepository.addMany runtime events) state =
        some (outcome, { state with rows := state.rows ++ added }) ∧
      (added = [] ∨ added = events.map (OutboxRepository.row runtime state.now)) ∧
      Resting processor { state with rows := state.rows ++ added } := by
  unfold OutboxRepository.addMany
  split
  · refine ⟨.ok (), [], ?_, .inl rfl, ?_⟩
    · rw [List.append_nil]
      rfl
    · rw [List.append_nil]
      exact resting
  · rw [runAlone_read]
    rcases serves.stores state (events.map (OutboxRepository.row runtime state.now)) with
      ⟨answered, valid⟩ | ⟨reason, answered⟩
    · have performed : (outboxSystem runtime false).perform state
          (.addMany (events.map (OutboxRepository.row runtime state.now))) (.ok ()) =
          some { state with
            rows := state.rows ++ events.map (OutboxRepository.row runtime state.now) } := by
        change performOutbox false state
          (.addMany (events.map (OutboxRepository.row runtime state.now))) (.ok ()) = _
        simp only [performOutbox, OutboxRequest.processor, Option.any_none, valid, if_true]
        rfl
      refine ⟨.ok (), events.map (OutboxRepository.row runtime state.now),
        runAlone_await _ _ answered performed, .inr rfl, ?_⟩
      · refine ⟨⟨resting.up, ?_⟩, resting.idle⟩
        simp only [returns, Bool.and_eq_true, decide_eq_true_eq, List.all_eq_true,
          Bool.not_eq_true', List.any_eq_false] at valid
        rw [List.map_append, List.nodup_append]
        refine ⟨resting.distinct, valid.1, ?_⟩
        intro id held other listed same
        obtain ⟨known, stored, rfl⟩ := List.mem_map.mp held
        obtain ⟨row, new, rfl⟩ := List.mem_map.mp listed
        exact valid.2 row new known stored same
    · have performed : (outboxSystem runtime false).perform state
          (.addMany (events.map (OutboxRepository.row runtime state.now))) (.failed false reason) =
          some state := by
        change performOutbox false state
          (.addMany (events.map (OutboxRepository.row runtime state.now)))
          (.failed false reason) = _
        simp only [performOutbox, OutboxRequest.processor, Option.any_none, isStatement,
          Bool.not_false, Bool.or_true, Bool.and_self, if_true]
        rfl
      refine ⟨.error (.error reason), [], ?_, .inl rfl, ?_⟩
      · rw [List.append_nil]
        exact runAlone_await _ _ answered performed
      · rw [List.append_nil]
        exact resting

/-- What one round does to the table. -/
theorem round_alone (serves : Serves processor answers) (interval : Interval)
    (later : List Interval) {state : OutboxState} (resting : Resting processor state) :
    ∃ added batch next,
      rounds runtime processor answers (interval :: later) state =
        rounds runtime processor answers later next ∧
      (added = [] ∨ added =
        interval.events.map (OutboxRepository.row runtime (state.now + interval.millis))) ∧
      ((state.rows ++ added).map OutboxEntry.id).Nodup ∧
      Batch (state.rows ++ added) runtime.config.batchSize batch ∧
      next.now = state.now + interval.millis ∧
      Resting processor next ∧
      next.rows = if batch = [] then state.rows ++ added
        else (state.rows ++ added).map
          (polled runtime (state.now + interval.millis) (batch.map OutboxEntry.id)) := by
  have waited : Resting processor { state with now := state.now + interval.millis } :=
    ⟨⟨resting.up, resting.distinct⟩, resting.idle⟩
  obtain ⟨outcome, added, stored, which, ready⟩ :=
    @addMany_alone runtime _ _ serves interval.events _ waited
  obtain ⟨batch, taken, ran⟩ := @processOutbox_alone runtime false _ _ _ serves ready
  refine ⟨added, batch,
    { state with
      now := state.now + interval.millis
      rows := if batch = [] then state.rows ++ added
        else (state.rows ++ added).map
          (polled runtime (state.now + interval.millis) (batch.map OutboxEntry.id)) },
    ?_, which, ready.distinct, taken, rfl, ?_, rfl⟩
  · rw [rounds, stored, Option.bind_some, ran, Option.bind_some]
  · refine ⟨⟨resting.up, ?_⟩, resting.idle⟩
    simp only
    split
    · exact ready.distinct
    · rw [ids_map fun row => ?_]
      · exact ready.distinct
      · unfold polled returned
        split
        · exact tried_id runtime _ _ row
        · exact tried_id runtime _ _ row

/-- A table after a round, as seen from the entries that are not younger than `newest`. -/
structure Advanced (runtime : OutboxRuntime) (newest : Nat) (rows later : List OutboxEntry) :
    Prop where
  keeps : ∀ row ∈ rows, row.createdAt ≤ newest → ∃ after ∈ later, after.createdAt ≤ newest ∧
    ∀ time, ∃ moment, settled runtime time after = settled runtime moment row
  less : backlog runtime newest later ≤ backlog runtime newest rows
  works : Unfailed runtime.config.maxRetries rows →
    backlog runtime newest later ≤ backlog runtime newest rows - 1
  unfailed : (∃ row ∈ rows, isPending row = true) ∨ Unfailed runtime.config.maxRetries rows →
    Unfailed runtime.config.maxRetries later

/-- Where the entries of a later table come to rest, those of the earlier one do. -/
theorem Advanced.settles {newest : Nat} {rows later final : List OutboxEntry}
    (advanced : Advanced runtime newest rows later)
    (reached : ∀ row ∈ later, row.createdAt ≤ newest → ∃ time, settled runtime time row ∈ final)
    {row : OutboxEntry} (member : row ∈ rows) (old : row.createdAt ≤ newest) :
    ∃ time, settled runtime time row ∈ final := by
  obtain ⟨after, held, early, ends⟩ := advanced.keeps row member old
  obtain ⟨time, there⟩ := reached after held early
  obtain ⟨moment, same⟩ := ends time
  exact ⟨moment, same ▸ there⟩

/-- In a table where nothing waits for a reset, what is left to do is pending. -/
theorem exists_pending {newest : Nat} {rows : List OutboxEntry}
    (unfailed : Unfailed runtime.config.maxRetries rows)
    (left : backlog runtime newest rows ≠ 0) :
    ∃ row ∈ rows, isPending row = true ∧ row.createdAt ≤ newest := by
  by_contra none
  apply left
  refine List.sum_eq_zero fun count listed => ?_
  obtain ⟨row, member, rfl⟩ := List.mem_map.mp listed
  obtain ⟨held, old⟩ := List.mem_filter.mp member
  have idle : isPending row = false := by
    cases waits : isPending row with
    | false => rfl
    | true => exact absurd ⟨row, held, waits, of_decide_eq_true old⟩ none
  simp [effort, outstanding, idle, unfailed row held]

theorem round_advances (serves : Serves processor answers) (room : 0 < runtime.config.batchSize)
    (interval : Interval) (later : List Interval) {newest : Nat} {state : OutboxState}
    (resting : Resting processor state) (past : newest < state.now) :
    ∃ next, rounds runtime processor answers (interval :: later) state =
        rounds runtime processor answers later next ∧
      Resting processor next ∧ newest < next.now ∧
      Advanced runtime newest state.rows next.rows := by
  obtain ⟨added, batch, next, goes, which, distinct, taken, clock, rests, rows⟩ :=
    @round_alone runtime processor answers serves interval later state resting
  refine ⟨next, goes, rests, by omega, ?_⟩
  have young : ∀ row ∈ added, newest < row.createdAt ∧ isPending row = true := by
    intro row listed
    rcases which with rfl | rfl
    · cases listed
    · obtain ⟨event, -, rfl⟩ := List.mem_map.mp listed
      exact ⟨by change newest < state.now + interval.millis; omega, rfl⟩
  have same := backlog_append runtime state.rows fun row listed => (young row listed).1
  have less : backlog runtime newest next.rows ≤ backlog runtime newest state.rows := by
    rw [rows, ← same]
    split
    · exact Nat.le_refl _
    · exact taken.backlog_le runtime newest _ distinct
  constructor
  · intro row member old
    have held := List.mem_append_left added member
    rw [rows]
    split
    · exact ⟨row, held, old, fun time => ⟨time, rfl⟩⟩
    · refine ⟨_, List.mem_map_of_mem held, ?_, taken.settled_polled runtime _ distinct held⟩
      rw [createdAt_polled]
      exact old
  · exact less
  · intro unfailed
    by_cases done : backlog runtime newest state.rows = 0
    · omega
    · -- what is left is pending, and whatever was stored since stands behind it
      obtain ⟨row, member, pending, old⟩ := exists_pending unfailed done
      have held := List.mem_append_left added member
      obtain ⟨first, listed, -⟩ := taken.takes_old room held pending old
      have fewer := taken.backlog_lt runtime (state.now + interval.millis) room distinct held
        pending old
      rw [rows, if_neg (List.ne_nil_of_mem listed)]
      omega
  · intro started
    rw [rows]
    split
    · -- an empty batch ends the poll before the reset, so nothing may have waited for one
      rename_i empty
      have unfailed : Unfailed runtime.config.maxRetries state.rows := by
        rcases started with ⟨row, member, pending⟩ | unfailed
        · obtain ⟨first, listed, -⟩ := taken.takes_old room (List.mem_append_left added member)
            pending (Nat.le_refl row.createdAt)
          exact absurd empty (List.ne_nil_of_mem listed)
        · exact unfailed
      intro row listed
      rcases List.mem_append.mp listed with old | new
      · exact unfailed row old
      · have waits := (young row new).2
        simp only [isPending, decide_eq_true_eq] at waits
        simp [retriable, waits]
    · intro row listed
      obtain ⟨before, -, rfl⟩ := List.mem_map.mp listed
      exact retriable_returned _ _

/-- By induction on the rounds: each of them leaves less to do. -/
theorem rounds_settle (serves : Serves processor answers) (room : 0 < runtime.config.batchSize)
    {newest : Nat} (intervals : List Interval) {state : OutboxState}
    (resting : Resting processor state) (past : newest < state.now)
    (unfailed : Unfailed runtime.config.maxRetries state.rows)
    (enough : backlog runtime newest state.rows ≤ intervals.length) :
    ∃ final, rounds runtime processor answers intervals state = some final ∧
      ∀ row ∈ state.rows, row.createdAt ≤ newest →
        ∃ time, settled runtime time row ∈ final.rows := by
  induction intervals generalizing state with
  | nil =>
      refine ⟨state, rfl, fun row member old => ⟨0, ?_⟩⟩
      have least := effort_le_backlog runtime member old
      have rest : effort runtime row = 0 := by
        rw [List.length_nil] at enough
        omega
      rw [settled_of_effort_zero rest]
      exact member
  | cons interval later ih =>
      obtain ⟨next, goes, rests, passed, advanced⟩ :=
        round_advances serves room interval later resting past
      have fewer := advanced.works unfailed
      rw [List.length_cons] at enough
      obtain ⟨final, ran, reached⟩ :=
        ih rests passed (advanced.unfailed (.inr unfailed)) (by omega)
      exact ⟨final, goes.trans ran, fun row member old => advanced.settles reached member old⟩

/-- Polls of a table without a pending entry change nothing. -/
theorem rounds_idle (serves : Serves processor answers) (intervals : List Interval)
    (quiet : ∀ interval ∈ intervals, interval.events = []) {state : OutboxState}
    (resting : Resting processor state) (none : ∀ row ∈ state.rows, isPending row = false) :
    ∃ final, rounds runtime processor answers intervals state = some final ∧
      final.rows = state.rows := by
  induction intervals generalizing state with
  | nil => exact ⟨state, rfl, rfl⟩
  | cons interval later ih =>
      obtain ⟨added, batch, next, goes, which, -, taken, -, rests, rows⟩ :=
        @round_alone runtime processor answers serves interval later state resting
      have nothing : added = [] := by
        rcases which with empty | listed
        · exact empty
        · rw [listed, quiet interval List.mem_cons_self]
          rfl
      subst nothing
      rw [List.append_nil] at taken rows
      have empty : batch = [] := by
        refine List.eq_nil_iff_forall_not_mem.mpr fun row listed => ?_
        obtain ⟨held, pending⟩ := taken.pending row listed
        rw [none row held] at pending
        cases pending
      rw [if_pos empty] at rows
      obtain ⟨final, ran, same⟩ := ih
        (fun interval listed => quiet interval (List.mem_cons_of_mem _ listed)) rests
        (by rw [rows]; exact none)
      exact ⟨final, goes.trans ran, same.trans rows⟩

end Rounds

/-- As soon as one entry is pending, the entries of the past come to rest within as many polls
as they still take attempts and one more, whatever is stored meanwhile.  While none is
pending, failed entries stay as they are, also those that might be retried. -/
theorem outbox_drains {runtime : OutboxRuntime} {processor : Nat} {answers : Answering outbox}
    (serves : Serves processor answers) (room : 0 < runtime.config.batchSize)
    {state : OutboxState} (resting : Resting processor state) (intervals : List Interval) :
    ((∃ row ∈ state.rows, isPending row = true) → ∀ newest, newest < state.now →
      backlog runtime newest state.rows < intervals.length →
      ∃ final, rounds runtime processor answers intervals state = some final ∧
        ∀ row ∈ state.rows, row.createdAt ≤ newest →
          ∃ time, settled runtime time row ∈ final.rows) ∧
    ((∀ row ∈ state.rows, isPending row = false) →
      (∀ interval ∈ intervals, interval.events = []) →
      ∃ final, rounds runtime processor answers intervals state = some final ∧
        final.rows = state.rows) := by
  constructor
  · intro started newest past enough
    cases intervals with
    | nil => exact absurd enough (Nat.not_lt_zero _)
    | cons interval later =>
        obtain ⟨next, goes, rests, passed, advanced⟩ :=
          round_advances serves room interval later resting past
        have most := advanced.less
        rw [List.length_cons] at enough
        obtain ⟨final, ran, reached⟩ :=
          rounds_settle serves room later rests passed (advanced.unfailed (.inl started)) (by omega)
        exact ⟨final, goes.trans ran, fun row member old => advanced.settles reached member old⟩
  · intro none quiet
    exact rounds_idle serves intervals quiet resting none

/-! ### A database that serves -/

section Database

/-- The oldest pending rows. -/
def oldestPending (rows : List OutboxEntry) (limit : Nat) : List OutboxEntry :=
  ((rows.filter isPending).insertionSort fun early late => early.createdAt ≤ late.createdAt).take
    limit

theorem isBatch_oldestPending {rows : List OutboxEntry}
    (distinct : (rows.map OutboxEntry.id).Nodup) (limit : Nat) :
    isBatch rows limit (oldestPending rows limit) = true := by
  have sorted := List.pairwise_insertionSort
    (fun early late : OutboxEntry => early.createdAt ≤ late.createdAt) (rows.filter isPending)
  have perm := List.perm_insertionSort
    (fun early late : OutboxEntry => early.createdAt ≤ late.createdAt) (rows.filter isPending)
  have apart : (((rows.filter isPending).insertionSort fun early late =>
      early.createdAt ≤ late.createdAt).map OutboxEntry.id).Nodup :=
    (perm.map OutboxEntry.id).nodup_iff.mpr
      (distinct.sublist (List.filter_sublist.map OutboxEntry.id))
  unfold oldestPending
  generalize listed : (rows.filter isPending).insertionSort
    (fun early late => early.createdAt ≤ late.createdAt) = pending at *
  simp only [isBatch, Bool.and_eq_true, decide_eq_true_eq, List.all_eq_true, Bool.or_eq_true,
    List.contains_iff_mem]
  refine ⟨⟨?_, ?_⟩, fun first taken => ⟨?_, fun row waits => ?_⟩⟩
  · rw [List.length_take, perm.length_eq]
  · exact (sorted.and (List.pairwise_map.mp apart)).sublist (List.take_sublist limit pending)
  · exact perm.mem_iff.mp (List.mem_of_mem_take taken)
  · have held := perm.mem_iff.mpr waits
    rw [← List.take_append_drop limit pending] at held sorted
    rcases List.mem_append.mp held with front | back
    · exact .inl front
    · exact .inr ((List.pairwise_append.mp sorted).2.2 first taken row back)

/-- Every statement succeeds, save that events with known identifiers are refused. -/
def serving : Answering outbox
  | state, .addMany rows =>
      if returns state.rows (.addMany rows) () then .ok () else .failed false "duplicate key"
  | state, .getPending _ limit => .ok (oldestPending state.rows limit)
  | state, .markAsProcessing _ id => .ok (state.rows.any fun row => row.id = id && isPending row)
  | _, .markAsProcessed _ _ _ => .ok ()
  | _, .markAsFailed _ _ _ => .ok ()
  | state, .resetForRetry _ maxRetries => .ok (state.rows.filter (retriable maxRetries)).length
  | state, .deleteProcessed _ olderThan =>
      .ok (state.rows.filter (expiredBefore olderThan)).length
  | _, .handle _ _ handlers => .ok (handlers.map fun _ => .ok ())

theorem serving_serves (processor : Nat) : Serves processor serving := by
  constructor
  · intro state request own distinct
    cases request with
    | addMany rows => cases own
    | getPending other limit => exact ⟨_, rfl, isBatch_oldestPending distinct limit⟩
    | markAsProcessing other id => exact ⟨_, rfl, by simp [returns]⟩
    | markAsProcessed other id processedAt => exact ⟨_, rfl, rfl⟩
    | markAsFailed other id error => exact ⟨_, rfl, rfl⟩
    | resetForRetry other maxRetries => exact ⟨_, rfl, by simp [returns]⟩
    | deleteProcessed other olderThan => exact ⟨_, rfl, by simp [returns]⟩
    | handle other event handlers => exact ⟨_, rfl, by simp [returns]⟩
  · intro state rows
    by_cases valid : returns state.rows (.addMany rows) () = true
    · exact .inl ⟨if_pos valid, valid⟩
    · exact .inr ⟨"duplicate key", if_neg valid⟩

end Database

/-- The bus takes the tickets that are opened. -/
def pickyRuntime : OutboxRuntime :=
  { ticketRuntime with
    parse := fun payload =>
      .ok { ticketOpened with eventType := if payload = "{}" then "TicketOpened" else payload }
    cqrsPublish := fun event =>
      if event.eventType = "TicketOpened" then .ok () else .error "no handler" }

/-- One entry that will be delivered, behind one that never will. -/
def crowdedOutbox : OutboxState :=
  { emptyOutbox with
    rows := [{ ticketRow with id := "e-0", payload := "TicketLost" }, ticketRow]
    now := 1 }

/-- An entry that failed once, and nothing else. -/
def quietOutbox : OutboxState :=
  { emptyOutbox with
    rows := [{ ticketRow with status := .failed, retryCount := 1 }]
    now := 1 }

/-- Five polls are enough for the three attempts on the one and the one on the other; where
nothing is pending, five polls leave a failed entry as it was. -/
theorem outbox_drains_crowded :
    (∃ final, rounds pickyRuntime 1 serving (List.replicate 5 ⟨5000, []⟩) crowdedOutbox =
        some final ∧
      ∀ row ∈ crowdedOutbox.rows, row.createdAt ≤ 0 →
        ∃ time, settled pickyRuntime time row ∈ final.rows) ∧
    ∃ final, rounds pickyRuntime 1 serving (List.replicate 5 ⟨5000, []⟩) quietOutbox =
        some final ∧ final.rows = quietOutbox.rows := by
  have crowded : Resting 1 crowdedOutbox := ⟨⟨List.not_mem_nil, by decide⟩, List.not_mem_nil⟩
  have quiet : Resting 1 quietOutbox := ⟨⟨List.not_mem_nil, by decide⟩, List.not_mem_nil⟩
  constructor
  · exact (outbox_drains (serving_serves 1) (by decide) crowded _).1 (by decide) 0 (by decide)
      (by decide +kernel)
  · refine (outbox_drains (serving_serves 1) (by decide) quiet _).2 (by decide) ?_
    intro interval listed
    rw [List.eq_of_mem_replicate listed]

end SelfService
