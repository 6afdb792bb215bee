/-
The order in which the events of an aggregate are published.

One processor works on the table, statement by statement, while events are added and
old entries are deleted.  Publishing may resolve or reject every time.  What was
emitted, and what was published, is noted beside the table.

`getPending` orders by `createdAt`, which the rows of one insert share, and a batch goes
on after an entry that failed, which is taken up again in a later batch.
-/

import SelfService.Outbox.Exclusion

namespace SelfService

open EventLoop

/-- Where the processor stands: between two runs, before the rest of a batch, inside `publish`
for the entry that it took, or behind it, before the statement that releases the entry. -/
inductive ProcessorPhase
  | idle
  | batch (rest : List OutboxEntry)
  | publishing (entry : OutboxEntry) (rest : List OutboxEntry)
  | resolved (entry : OutboxEntry) (rest : List OutboxEntry)
  | rejected (entry : OutboxEntry) (rest : List OutboxEntry)

namespace ProcessorPhase

/-- The entry that the processor holds. -/
def current : ProcessorPhase → Option String
  | .idle | .batch _ => none
  | .publishing entry _ | .resolved entry _ | .rejected entry _ => some entry.id

/-- The entries that are still to be taken. -/
def rest : ProcessorPhase → List OutboxEntry
  | .idle => []
  | .batch rest | .publishing _ rest | .resolved _ rest | .rejected _ rest => rest

/-- The entries of the batch, without those that are done. -/
def ids (phase : ProcessorPhase) : List String :=
  phase.current.toList ++ phase.rest.map OutboxEntry.id

end ProcessorPhase

structure OrderState where
  rows : List OutboxEntry
  phase : ProcessorPhase
  emitted : List OutboxEntry
  published : List String

def OrderState.initial : OrderState := ⟨[], .idle, [], []⟩

/-- How a statement comes out.  One that fails may have taken effect. -/
inductive StatementOutcome
  | ok
  | failed (applied : Bool)
  deriving DecidableEq

def StatementOutcome.change (outcome : StatementOutcome) (request : OutboxRequest)
    (rows : List OutboxEntry) : List OutboxEntry :=
  match outcome with
  | .ok | .failed true => effect request rows
  | .failed false => rows

inductive OrderStep
  | addMany (events : List DomainEvent) (now : Nat) (outcome : StatementOutcome)
  | getPending (batch : Option (List OutboxEntry))
  | markAsProcessing (outcome : StatementOutcome)
  | publish (resolves : Bool)
  | markAsProcessed (now : Nat) (outcome : StatementOutcome)
  | markAsFailed (error : String) (outcome : StatementOutcome)
  | resetForRetry (outcome : StatementOutcome)
  | deleteProcessed (olderThan : Nat) (outcome : StatementOutcome)
  | restart

/-- The identifiers of events are drawn anew for each. -/
def fresh (emitted added : List OutboxEntry) : Bool :=
  decide (added.map OutboxEntry.id).Nodup &&
    added.all fun row => !emitted.any fun known => known.id = row.id

/-- One statement, or one publication.  An error of a statement inside the batch ends the run,
but for `markAsProcessed`, which stands in the `try` block of the entry. -/
def OrderState.step (runtime : OutboxRuntime) (s : OrderState) : OrderStep → Option OrderState
  | .addMany events now outcome =>
      let added := events.map (OutboxRepository.row runtime now)
      if outcome = .failed false then some s
      else if fresh s.emitted added then
        some { s with rows := s.rows ++ added, emitted := s.emitted ++ added }
      else none
  | .getPending answer =>
      match s.phase, answer with
      | .idle, none => some s
      | .idle, some batch =>
          if isBatch s.rows runtime.config.batchSize batch then
            some { s with phase := if batch = [] then .idle else .batch batch }
          else none
      | _, _ => none
  | .markAsProcessing outcome =>
      match s.phase with
      | .batch (entry :: rest) =>
          let rows := outcome.change (.markAsProcessing 0 entry.id) s.rows
          let acquired := s.rows.any fun row => row.id = entry.id && isPending row
          some { s with
            rows := rows
            phase := if outcome ≠ .ok then .idle
              else if acquired then .publishing entry rest else .batch rest }
      | _ => none
  | .publish resolves =>
      match s.phase with
      | .publishing entry rest =>
          if resolves then
            some { s with phase := .resolved entry rest, published := s.published ++ [entry.id] }
          else some { s with phase := .rejected entry rest }
      | _ => none
  | .markAsProcessed now outcome =>
      match s.phase with
      | .resolved entry rest =>
          some { s with
            rows := outcome.change (.markAsProcessed 0 entry.id now) s.rows
            phase := if outcome ≠ .ok then .rejected entry rest else .batch rest }
      | _ => none
  | .markAsFailed error outcome =>
      match s.phase with
      | .rejected entry rest =>
          some { s with
            rows := outcome.change (.markAsFailed 0 entry.id error) s.rows
            phase := if outcome ≠ .ok then .idle else .batch rest }
      | _ => none
  | .resetForRetry outcome =>
      match s.phase with
      | .batch [] =>
          some { s with
            rows := outcome.change (.resetForRetry 0 runtime.config.maxRetries) s.rows
            phase := .idle }
      | _ => none
  | .deleteProcessed olderThan outcome =>
      some { s with rows := outcome.change (.deleteProcessed 0 olderThan) s.rows }
  | .restart => some { s with phase := .idle }

def OrderState.steps (runtime : OutboxRuntime) (s : OrderState) (steps : List OrderStep) :
    Option OrderState :=
  steps.foldlM (fun s step => s.step runtime step) s

/-- Two events of one aggregate, in the order in which it emitted them. -/
def OrderState.Precedes (s : OrderState) (first second : String) : Prop :=
  ∃ early late, [early, late].Sublist s.emitted ∧ early.aggregateId = late.aggregateId ∧
    early.id = first ∧ late.id = second

/-- Of two events of one aggregate that were published, the earlier one was so first. -/
def OrderState.InOrder (s : OrderState) : Prop :=
  ∀ first second, s.Precedes first second → first ∈ s.published → second ∈ s.published →
    s.published.idxOf first < s.published.idxOf second

/-- The batch lists the events of an aggregate in the order of their insertion, and none of them
while an earlier one is left out or waits for its retry.  Publishing does not reject an event with
a retry left while a later event of its aggregate follows in the batch. -/
def OrderState.Smooth (runtime : OutboxRuntime) (s : OrderState) : OrderStep → Prop
  | .getPending (some batch) =>
      ∀ first second, s.Precedes first second → first ∉ s.published →
        second ∈ batch.map OutboxEntry.id → ∀ row ∈ s.rows, row.id = first →
          (row.status = .pending → [first, second].Sublist (batch.map OutboxEntry.id)) ∧
            retriable runtime.config.maxRetries row = false
  | .publish false =>
      match s.phase with
      | .publishing entry rest =>
          entry.id ∉ s.published → ∀ second ∈ rest.map OutboxEntry.id,
            s.Precedes entry.id second → ∀ row ∈ s.rows, row.id = entry.id →
              runtime.config.maxRetries ≤ row.retryCount + 1
      | _ => True
  | _ => True

/-- The states of the runs whose steps are all smooth. -/
inductive SmoothRun (runtime : OutboxRuntime) : OrderState → Prop
  | initial : SmoothRun runtime .initial
  | step {s next : OrderState} {step : OrderStep} (run : SmoothRun runtime s)
      (smooth : s.Smooth runtime step) (stepped : s.step runtime step = some next) :
      SmoothRun runtime next

/-! ### The invariant -/

/-- The entry is not published any more: it has failed for good, or is in processing with nobody
at work on it. -/
def OrderState.Dead (s : OrderState) (maxRetries : Nat) (id : String) : Prop :=
  s.phase.current ≠ some id ∧ ∃ row ∈ s.rows, row.id = id ∧
    (row.status = .processing ∨ row.status = .failed ∧ maxRetries ≤ row.retryCount)

structure OrderInv (maxRetries : Nat) (s : OrderState) : Prop where
  distinct : (s.rows.map OutboxEntry.id).Nodup
  emittedOnce : (s.emitted.map OutboxEntry.id).Nodup
  known : ∀ row ∈ s.rows, row.id ∈ s.emitted.map OutboxEntry.id
  stored : ∀ id ∈ s.emitted.map OutboxEntry.id, id ∈ s.published ∨ ∃ row ∈ s.rows, row.id = id
  processed : ∀ row ∈ s.rows, row.status = .processed → row.id ∈ s.published
  own : ∀ id ∈ s.published, id ∈ s.emitted.map OutboxEntry.id
  queuedOnce : s.phase.ids.Nodup
  listed : ∀ id ∈ s.phase.ids, id ∈ s.emitted.map OutboxEntry.id
  waiting : ∀ entry ∈ s.phase.rest, ∃ row ∈ s.rows, row.id = entry.id ∧ row.status = .pending
  resolved : ∀ entry rest, s.phase = .resolved entry rest → entry.id ∈ s.published
  exhausted : ∀ entry rest, s.phase = .rejected entry rest → entry.id ∉ s.published →
    ∀ second ∈ rest.map OutboxEntry.id, s.Precedes entry.id second →
      ∀ row ∈ s.rows, row.id = entry.id → maxRetries ≤ row.retryCount + 1
  blocked : ∀ first second, s.Precedes first second → first ∉ s.published →
    second ∈ s.published → s.Dead maxRetries first
  queued : ∀ first second, s.Precedes first second → first ∉ s.published →
    second ∈ s.phase.ids → s.Dead maxRetries first ∨ [first, second].Sublist s.phase.ids
  inOrder : s.InOrder

theorem orderInv_initial (maxRetries : Nat) : OrderInv maxRetries .initial where
  distinct := List.nodup_nil
  emittedOnce := List.nodup_nil
  known _ member := nomatch member
  stored _ member := nomatch member
  processed _ member := nomatch member
  own _ member := nomatch member
  queuedOnce := List.nodup_nil
  listed _ member := nomatch member
  waiting _ member := nomatch member
  resolved _ _ at_ := nomatch at_
  exhausted _ _ at_ := nomatch at_
  blocked _ _ _ _ member := nomatch member
  queued _ _ _ _ member := nomatch member
  inOrder _ _ _ member := nomatch member

section Steps

variable {runtime : OutboxRuntime} {maxRetries : Nat} {s next : OrderState}

/-- A statement about one entry leaves the others alone. -/
structure TouchesEntry (id : String) (before after : List OutboxEntry) : Prop where
  same : after.map OutboxEntry.id = before.map OutboxEntry.id
  others : ∀ row, row.id ≠ id → (row ∈ after ↔ row ∈ before)

theorem touches_refl (id : String) (rows : List OutboxEntry) : TouchesEntry id rows rows :=
  ⟨rfl, fun _ _ => Iff.rfl⟩

theorem touches_update {id : String} {selects : OutboxEntry → Bool}
    {update : OutboxEntry → OutboxEntry} (only : ∀ row, selects row = true → row.id = id)
    (sameId : ∀ row, (update row).id = row.id) (rows : List OutboxEntry) :
    TouchesEntry id rows (updateRows selects update rows) := by
  refine ⟨ids_updateRows sameId, fun row other => ?_⟩
  rw [mem_updateRows]
  constructor
  · rintro ⟨old, member, rfl⟩
    split at other
    · next selected => exact absurd ((sameId old).trans (only old selected)) other
    · next spared =>
        rw [if_neg spared]
        exact member
  · intro member
    refine ⟨row, member, ?_⟩
    rw [if_neg fun selected => other (only row selected)]

/-- A statement takes effect, or it leaves the rows as they are. -/
theorem StatementOutcome.change_of {holds : List OutboxEntry → Prop} {request : OutboxRequest}
    {rows : List OutboxEntry} (outcome : StatementOutcome) (applied : holds (effect request rows))
    (spared : holds rows) : holds (outcome.change request rows) := by
  cases outcome with
  | ok => exact applied
  | failed effective =>
      cases effective with
      | true => exact applied
      | false => exact spared

theorem touches_change {id : String} {request : OutboxRequest} {rows : List OutboxEntry}
    (touches : TouchesEntry id rows (effect request rows)) (outcome : StatementOutcome) :
    TouchesEntry id rows (outcome.change request rows) :=
  @StatementOutcome.change_of (TouchesEntry id rows) _ _ outcome touches (touches_refl id rows)

theorem touches_markAsProcessing (id : String) (rows : List OutboxEntry) :
    TouchesEntry id rows (effect (.markAsProcessing 0 id) rows) := by
  apply touches_update
  · intro row selected
    exact of_decide_eq_true ((Bool.and_eq_true _ _).mp selected).1
  · exact fun _ => rfl

theorem touches_markAsProcessed (id : String) (now : Nat) (rows : List OutboxEntry) :
    TouchesEntry id rows (effect (.markAsProcessed 0 id now) rows) := by
  apply touches_update
  · exact fun _ selected => of_decide_eq_true selected
  · exact fun _ => rfl

theorem touches_markAsFailed (id error : String) (rows : List OutboxEntry) :
    TouchesEntry id rows (effect (.markAsFailed 0 id error) rows) := by
  apply touches_update
  · exact fun _ selected => of_decide_eq_true selected
  · exact fun _ => rfl

theorem OrderInv.row_unique (inv : OrderInv maxRetries s) {row other : OutboxEntry}
    (member : row ∈ s.rows) (also : other ∈ s.rows) (same : row.id = other.id) : row = other :=
  List.inj_on_of_nodup_map inv.distinct member also same

/-- What is dead waits in no batch. -/
theorem OrderInv.dead_not_waiting (inv : OrderInv maxRetries s) {id : String}
    (dead : s.Dead maxRetries id) : id ∉ s.phase.rest.map OutboxEntry.id := by
  intro member
  obtain ⟨entry, listed, rfl⟩ := List.mem_map.mp member
  obtain ⟨_, row, stored, same, status⟩ := dead
  obtain ⟨other, pending, also, waits⟩ := inv.waiting entry listed
  rw [inv.row_unique stored pending (same.trans also.symm)] at status
  rcases status with processing | failed
  · exact absurd (processing.symm.trans waits) (by decide)
  · exact absurd (failed.1.symm.trans waits) (by decide)

theorem OrderInv.dead_of_touches {id other : String} {rows : List OutboxEntry}
    {phase : ProcessorPhase} (dead : s.Dead maxRetries other)
    (touches : TouchesEntry id s.rows rows)
    (apart : other ≠ id) (free : phase.current ≠ some other) :
    OrderState.Dead { s with rows := rows, phase := phase } maxRetries other := by
  obtain ⟨_, row, member, same, status⟩ := dead
  refine ⟨free, row, (touches.others row ?_).mpr member, same, status⟩
  rw [same]
  exact apart

/-- A step about the entry that is taken, or that the processor holds. -/
theorem OrderInv.move (inv : OrderInv maxRetries s) {id : String} {rows : List OutboxEntry}
    {phase : ProcessorPhase} (touches : TouchesEntry id s.rows rows)
    (processed : ∀ row ∈ rows, row.id = id → row.status = .processed → id ∈ s.published)
    (shorter : phase.ids.Sublist s.phase.ids)
    (rest : ∀ entry ∈ phase.rest, entry ∈ s.phase.rest ∧ entry.id ≠ id)
    (resolved : ∀ entry rest, phase = .resolved entry rest → entry.id ∈ s.published)
    (exhausted : ∀ entry rest, phase = .rejected entry rest → entry.id ∉ s.published →
      ∀ second ∈ rest.map OutboxEntry.id, s.Precedes entry.id second →
        ∀ row ∈ rows, row.id = entry.id → maxRetries ≤ row.retryCount + 1)
    (dead : ∀ other, s.Dead maxRetries other → other ≠ id ∧ phase.current ≠ some other)
    (left : ∀ first second, s.Precedes first second → first ∉ s.published →
      second ∈ phase.ids → [first, second].Sublist s.phase.ids →
        OrderState.Dead { s with rows := rows, phase := phase } maxRetries first ∨
          [first, second].Sublist phase.ids) :
    OrderInv maxRetries { s with rows := rows, phase := phase } where
  distinct := by
    rw [touches.same]
    exact inv.distinct
  emittedOnce := inv.emittedOnce
  known := by
    intro row member
    have listed : row.id ∈ rows.map OutboxEntry.id := List.mem_map_of_mem member
    rw [touches.same] at listed
    obtain ⟨old, stored, same⟩ := List.mem_map.mp listed
    exact same ▸ inv.known old stored
  stored := by
    intro other member
    rcases inv.stored other member with published | ⟨row, stored, same⟩
    · exact .inl published
    · have listed : other ∈ rows.map OutboxEntry.id := by
        rw [touches.same, ← same]
        exact List.mem_map_of_mem stored
      obtain ⟨row, here, same⟩ := List.mem_map.mp listed
      exact .inr ⟨row, here, same⟩
  processed := by
    intro row member status
    by_cases same : row.id = id
    · rw [same]
      exact processed row member same status
    · exact inv.processed row ((touches.others row same).mp member) status
  own := inv.own
  queuedOnce := inv.queuedOnce.sublist shorter
  listed other member := inv.listed other (shorter.subset member)
  waiting := by
    intro entry member
    obtain ⟨before, other⟩ := rest entry member
    obtain ⟨row, stored, same, pending⟩ := inv.waiting entry before
    refine ⟨row, (touches.others row ?_).mpr stored, same, pending⟩
    rw [same]
    exact other
  resolved := resolved
  exhausted := exhausted
  blocked := by
    intro first second precedes unpublished published
    have was := inv.blocked first second precedes unpublished published
    obtain ⟨apart, free⟩ := dead first was
    exact OrderInv.dead_of_touches was touches apart free
  queued := by
    intro first second precedes unpublished member
    rcases inv.queued first second precedes unpublished (shorter.subset member) with was | before
    · obtain ⟨apart, free⟩ := dead first was
      exact .inl (OrderInv.dead_of_touches was touches apart free)
    · exact left first second precedes unpublished member before
  inOrder := inv.inOrder

theorem OrderInv.precedes_ne (inv : OrderInv maxRetries s) {first second : String}
    (precedes : s.Precedes first second) : first ≠ second := by
  obtain ⟨early, late, sublist, _, rfl, rfl⟩ := precedes
  have distinct := inv.emittedOnce.sublist (sublist.map OutboxEntry.id)
  exact fun same => (List.nodup_cons.mp distinct).1 (List.mem_singleton.mpr same)

theorem sublist_tail {first second head : String} {tail : List String}
    (sublist : [first, second].Sublist (head :: tail)) (apart : first ≠ head) :
    [first, second].Sublist tail := by
  rcases List.sublist_cons_iff.mp sublist with inside | ⟨rest, split, _⟩
  · exact inside
  · exact absurd (List.cons.inj split).1 apart

/-- The entries behind the first one are others. -/
theorem rest_apart {entry : OutboxEntry} {rest : List OutboxEntry}
    (distinct : (entry.id :: rest.map OutboxEntry.id).Nodup) :
    ∀ other ∈ rest, other.id ≠ entry.id := by
  intro other member same
  exact (List.nodup_cons.mp distinct).1 (same ▸ List.mem_map_of_mem member)

theorem OrderInv.acquire (inv : OrderInv maxRetries s) {entry : OutboxEntry}
    {rest : List OutboxEntry} (at_ : s.phase = .batch (entry :: rest))
    (outcome : StatementOutcome) :
    OrderInv maxRetries { s with
      rows := outcome.change (.markAsProcessing 0 entry.id) s.rows
      phase := if outcome ≠ .ok then .idle
        else if s.rows.any fun row => row.id = entry.id && isPending row then
          .publishing entry rest
        else .batch rest } := by
  have ids : s.phase.ids = entry.id :: rest.map OutboxEntry.id := by
    rw [at_]
    rfl
  have held : entry ∈ s.phase.rest := by
    rw [at_]
    exact List.mem_cons_self
  have touches := touches_change (touches_markAsProcessing entry.id s.rows) outcome
  have processed : ∀ row ∈ outcome.change (.markAsProcessing 0 entry.id) s.rows,
      row.id = entry.id → row.status = .processed → entry.id ∈ s.published := by
    have applied : ∀ row ∈ effect (.markAsProcessing 0 entry.id) s.rows,
        row.status = .processed → row ∈ s.rows := by
      intro row member status
      obtain ⟨old, stored, rfl⟩ := mem_updateRows.mp member
      split at status
      · exact absurd status (by simp)
      · next spared =>
          rw [if_neg spared]
          exact stored
    refine @StatementOutcome.change_of (fun rows => ∀ row ∈ rows, row.id = entry.id →
      row.status = .processed → entry.id ∈ s.published) _ _ outcome ?_ ?_
    · intro row member same status
      exact same ▸ inv.processed row (applied row member status) status
    · intro row member same status
      exact same ▸ inv.processed row member status
  have alive : ∀ other, s.Dead maxRetries other → other ≠ entry.id := by
    rintro other dead rfl
    exact inv.dead_not_waiting dead (List.mem_map_of_mem held)
  -- The entry is pending, so that it is acquired.
  have acquired : (s.rows.any fun row => row.id = entry.id && isPending row) = true := by
    obtain ⟨row, stored, same, pending⟩ := inv.waiting entry held
    rw [List.any_eq_true]
    exact ⟨row, stored, by simp [same, isPending, pending]⟩
  cases outcome with
  | ok =>
      rw [if_neg (not_not_intro rfl), if_pos acquired]
      apply inv.move touches processed
      · rw [ids]
        exact List.Sublist.refl _
      · intro other member
        refine ⟨?_, rest_apart (ids ▸ inv.queuedOnce) other member⟩
        rw [at_]
        exact List.mem_cons_of_mem entry member
      · exact fun _ _ wrong => by cases wrong
      · exact fun _ _ wrong => by cases wrong
      · exact fun other dead => ⟨alive other dead, fun same =>
          alive other dead (Option.some.inj same).symm⟩
      · intro first second _ _ _ before
        rw [ids] at before
        exact .inr before
  | failed effective =>
      rw [if_pos (by simp)]
      apply inv.move touches processed
      · exact List.nil_sublist _
      · exact fun _ member => by cases member
      · exact fun _ _ wrong => by cases wrong
      · exact fun _ _ wrong => by cases wrong
      · exact fun other dead => ⟨alive other dead, fun same => by cases same⟩
      · exact fun _ _ _ _ member _ => by cases member

theorem OrderInv.reject (inv : OrderInv maxRetries s) {entry : OutboxEntry}
    {rest : List OutboxEntry} (at_ : s.phase = .publishing entry rest)
    (exhausted : entry.id ∉ s.published → ∀ second ∈ rest.map OutboxEntry.id,
      s.Precedes entry.id second → ∀ row ∈ s.rows, row.id = entry.id →
        maxRetries ≤ row.retryCount + 1) :
    OrderInv maxRetries { s with phase := .rejected entry rest } := by
  have ids : s.phase.ids = entry.id :: rest.map OutboxEntry.id := by
    rw [at_]
    rfl
  apply inv.move (touches_refl entry.id s.rows)
  · intro row member same status
    rw [← same]
    exact inv.processed row member status
  · rw [ids]
    exact List.Sublist.refl _
  · intro other member
    refine ⟨?_, rest_apart (ids ▸ inv.queuedOnce) other member⟩
    rw [at_]
    exact member
  · exact fun _ _ wrong => nomatch wrong
  · intro other others same unpublished
    cases same
    exact exhausted unpublished
  · intro other dead
    have free := dead.1
    rw [at_] at free
    exact ⟨fun same => free (congrArg some same.symm), free⟩
  · intro first second _ _ _ before
    rw [ids] at before
    exact .inr before

theorem OrderInv.process (inv : OrderInv maxRetries s) {entry : OutboxEntry}
    {rest : List OutboxEntry} (at_ : s.phase = .resolved entry rest) (now : Nat)
    (outcome : StatementOutcome) :
    OrderInv maxRetries { s with
      rows := outcome.change (.markAsProcessed 0 entry.id now) s.rows
      phase := if outcome ≠ .ok then .rejected entry rest else .batch rest } := by
  have ids : s.phase.ids = entry.id :: rest.map OutboxEntry.id := by
    rw [at_]
    rfl
  have published := inv.resolved entry rest at_
  have touches := touches_change (touches_markAsProcessed entry.id now s.rows) outcome
  have free : ∀ other, s.Dead maxRetries other → other ≠ entry.id := by
    intro other dead same
    have held := dead.1
    rw [at_] at held
    exact held (congrArg some same.symm)
  have inside : ∀ other ∈ rest, other ∈ s.phase.rest ∧ other.id ≠ entry.id := by
    intro other member
    refine ⟨?_, rest_apart (ids ▸ inv.queuedOnce) other member⟩
    rw [at_]
    exact member
  by_cases ok : outcome = .ok
  · rw [if_neg (not_not_intro ok)]
    apply inv.move touches (fun _ _ _ _ => published)
    · rw [ids]
      exact List.sublist_cons_self _ _
    · exact inside
    · exact fun _ _ wrong => nomatch wrong
    · exact fun _ _ wrong => nomatch wrong
    · exact fun other dead => ⟨free other dead, fun same => nomatch same⟩
    · intro first second _ unpublished _ before
      rw [ids] at before
      refine .inr (sublist_tail before ?_)
      rintro rfl
      exact unpublished published
  · rw [if_pos ok]
    apply inv.move touches (fun _ _ _ _ => published)
    · rw [ids]
      exact List.Sublist.refl _
    · exact inside
    · exact fun _ _ wrong => nomatch wrong
    · intro other others same unpublished
      cases same
      exact absurd published unpublished
    · exact fun other dead => ⟨free other dead, fun same =>
        free other dead (Option.some.inj same).symm⟩
    · intro first second _ _ _ before
      rw [ids] at before
      exact .inr before

theorem OrderInv.fail (inv : OrderInv maxRetries s) {entry : OutboxEntry}
    {rest : List OutboxEntry} (at_ : s.phase = .rejected entry rest) (error : String)
    (outcome : StatementOutcome) :
    OrderInv maxRetries { s with
      rows := outcome.change (.markAsFailed 0 entry.id error) s.rows
      phase := if outcome ≠ .ok then .idle else .batch rest } := by
  have ids : s.phase.ids = entry.id :: rest.map OutboxEntry.id := by
    rw [at_]
    rfl
  have touches := touches_change (touches_markAsFailed entry.id error s.rows) outcome
  have free : ∀ other, s.Dead maxRetries other → other ≠ entry.id := by
    intro other dead same
    have held := dead.1
    rw [at_] at held
    exact held (congrArg some same.symm)
  have processed : ∀ row ∈ outcome.change (.markAsFailed 0 entry.id error) s.rows,
      row.id = entry.id → row.status = .processed → entry.id ∈ s.published := by
    have applied : ∀ row ∈ effect (.markAsFailed 0 entry.id error) s.rows,
        row.id = entry.id → row.status ≠ .processed := by
      intro row member same
      obtain ⟨old, _, rfl⟩ := mem_updateRows.mp member
      split
      · simp
      · next spared =>
          rw [if_neg spared] at same
          exact absurd (decide_eq_true same) spared
    refine @StatementOutcome.change_of (fun rows => ∀ row ∈ rows, row.id = entry.id →
      row.status = .processed → entry.id ∈ s.published) _ _ outcome ?_ ?_
    · exact fun row member same status => absurd status (applied row member same)
    · exact fun row member same status => same ▸ inv.processed row member status
  by_cases ok : outcome = .ok
  · rw [if_neg (not_not_intro ok)]
    apply inv.move touches processed
    · rw [ids]
      exact List.sublist_cons_self _ _
    · intro other member
      refine ⟨?_, rest_apart (ids ▸ inv.queuedOnce) other member⟩
      rw [at_]
      exact member
    · exact fun _ _ wrong => nomatch wrong
    · exact fun _ _ wrong => nomatch wrong
    · exact fun other dead => ⟨free other dead, fun same => nomatch same⟩
    · intro first second precedes unpublished member before
      rw [ids] at before
      by_cases same : first = entry.id
      · -- The entry has failed for the last time.
        subst same
        have listed := inv.listed entry.id (by rw [ids]; exact List.mem_cons_self)
        rcases inv.stored entry.id listed with published | ⟨row, stored, own⟩
        · exact absurd published unpublished
        · refine .inl ⟨(fun wrong => nomatch wrong), { row with
            status := .failed
            lastError := some error
            retryCount := row.retryCount + 1 }, ?_, own, .inr ⟨rfl, ?_⟩⟩
          · rw [ok]
            refine mem_updateRows.mpr ⟨row, stored, ?_⟩
            rw [if_pos (decide_eq_true own)]
          · exact inv.exhausted entry rest at_ unpublished second member precedes row stored own
      · exact .inr (sublist_tail before same)
  · rw [if_pos ok]
    apply inv.move touches processed
    · exact List.nil_sublist _
    · exact fun _ member => nomatch member
    · exact fun _ _ wrong => nomatch wrong
    · exact fun _ _ wrong => nomatch wrong
    · exact fun other dead => ⟨free other dead, fun same => nomatch same⟩
    · exact fun _ _ _ _ member _ => nomatch member

/-- The entry is published, perhaps not for the first time. -/
theorem OrderInv.resolve (inv : OrderInv maxRetries s) {entry : OutboxEntry}
    {rest : List OutboxEntry} (at_ : s.phase = .publishing entry rest) :
    OrderInv maxRetries { s with
      phase := .resolved entry rest, published := s.published ++ [entry.id] } := by
  have ids : s.phase.ids = entry.id :: rest.map OutboxEntry.id := by
    rw [at_]
    rfl
  have held : s.phase.current = some entry.id := by
    rw [at_]
    rfl
  have head : entry.id ∈ s.phase.ids := by
    rw [ids]
    exact List.mem_cons_self
  have dead : ∀ other, s.Dead maxRetries other → OrderState.Dead { s with
      phase := .resolved entry rest, published := s.published ++ [entry.id] } maxRetries other := by
    intro other was
    obtain ⟨free, row, stored, same, status⟩ := was
    rw [held] at free
    exact ⟨free, row, stored, same, status⟩
  have earlier : ∀ {id : String}, id ∉ s.published ++ [entry.id] →
      id ∉ s.published ∧ id ≠ entry.id := by
    intro id absent
    rw [List.mem_append, List.mem_singleton, not_or] at absent
    exact absent
  -- Nothing before the entry that could still be published.
  have first_ : ∀ first, s.Precedes first entry.id → first ∉ s.published →
      s.Dead maxRetries first := by
    intro first precedes unpublished
    rcases inv.queued first entry.id precedes unpublished head with was | before
    · exact was
    · rw [ids] at before
      have tail := sublist_tail before (inv.precedes_ne precedes)
      have again := tail.subset (List.mem_cons_of_mem first List.mem_cons_self)
      exact absurd again (List.nodup_cons.mp (ids ▸ inv.queuedOnce)).1
  constructor
  · exact inv.distinct
  · exact inv.emittedOnce
  · exact inv.known
  · intro id member
    rcases inv.stored id member with published | stored
    · exact .inl (List.mem_append_left _ published)
    · exact .inr stored
  · exact fun row member status => List.mem_append_left _ (inv.processed row member status)
  · intro id member
    rcases List.mem_append.mp member with published | new
    · exact inv.own id published
    · rw [List.mem_singleton.mp new]
      exact inv.listed entry.id head
  · have once := inv.queuedOnce
    rw [ids] at once
    exact once
  · intro id member
    refine inv.listed id ?_
    rw [ids]
    exact member
  · intro other member
    apply inv.waiting other
    rw [at_]
    exact member
  · intro other others same
    cases same
    exact List.mem_append_right _ List.mem_cons_self
  · exact fun _ _ wrong => nomatch wrong
  · intro first second precedes unpublished published
    obtain ⟨absent, apart⟩ := earlier unpublished
    rcases List.mem_append.mp published with before | new
    · exact dead first (inv.blocked first second precedes absent before)
    · rw [List.mem_singleton.mp new] at precedes
      exact dead first (first_ first precedes absent)
  · intro first second precedes unpublished member
    obtain ⟨absent, _⟩ := earlier unpublished
    have listed : second ∈ s.phase.ids := by
      rw [ids]
      exact member
    rcases inv.queued first second precedes absent listed with was | before
    · exact .inl (dead first was)
    · rw [ids] at before
      exact .inr before
  · intro first second precedes early late
    by_cases already : first ∈ s.published
    · by_cases also : second ∈ s.published
      · rw [List.idxOf_append_of_mem already, List.idxOf_append_of_mem also]
        exact inv.inOrder first second precedes already also
      · rw [List.idxOf_append_of_mem already, List.idxOf_append_of_notMem also]
        exact Nat.lt_of_lt_of_le (List.idxOf_lt_length_iff.mpr already) (Nat.le_add_right _ _)
    · -- The entry comes before what has been published; then it was given up.
      have own : first = entry.id := by
        rcases List.mem_append.mp early with before | new
        · exact absurd before already
        · exact List.mem_singleton.mp new
      subst own
      have other : second ∈ s.published := by
        rcases List.mem_append.mp late with before | new
        · exact before
        · exact absurd (List.mem_singleton.mp new).symm (inv.precedes_ne precedes)
      exact absurd held (inv.blocked entry.id second precedes already other).1

theorem OrderInv.poll (inv : OrderInv runtime.config.maxRetries s)
    {batch : List OutboxEntry}
    (valid : isBatch s.rows runtime.config.batchSize batch = true)
    (smooth : s.Smooth runtime (.getPending (some batch))) :
    OrderInv runtime.config.maxRetries { s with
      phase := if batch = [] then .idle else .batch batch } := by
  have ids : (if batch = [] then ProcessorPhase.idle else .batch batch).ids =
      batch.map OutboxEntry.id := by
    split
    · next empty =>
        rw [empty]
        rfl
    · rfl
  have rest : (if batch = [] then ProcessorPhase.idle else .batch batch).rest = batch := by
    split
    · next empty => exact empty.symm
    · rfl
  have current : (if batch = [] then ProcessorPhase.idle else .batch batch).current = none := by
    split <;> rfl
  unfold isBatch at valid
  rw [Bool.and_eq_true, Bool.and_eq_true] at valid
  obtain ⟨⟨_, sorted⟩, taken⟩ := valid
  have pending : ∀ entry ∈ batch, entry ∈ s.rows ∧ entry.status = .pending := by
    intro entry member
    have one := List.all_eq_true.mp taken entry member
    rw [Bool.and_eq_true] at one
    obtain ⟨stored, waits⟩ := List.mem_filter.mp (List.contains_iff_mem.mp one.1)
    exact ⟨stored, of_decide_eq_true waits⟩
  have once : (batch.map OutboxEntry.id).Nodup := by
    rw [List.Nodup, List.pairwise_map]
    exact (of_decide_eq_true sorted).imp fun both => both.2
  constructor
  · exact inv.distinct
  · exact inv.emittedOnce
  · exact inv.known
  · exact inv.stored
  · exact inv.processed
  · exact inv.own
  · rw [ids]
    exact once
  · intro id member
    rw [ids] at member
    obtain ⟨entry, listed, rfl⟩ := List.mem_map.mp member
    exact inv.known entry (pending entry listed).1
  · intro entry member
    rw [rest] at member
    obtain ⟨stored, waits⟩ := pending entry member
    exact ⟨entry, stored, rfl, waits⟩
  · intro entry others same
    split at same <;> exact nomatch same
  · intro entry others same
    split at same <;> exact nomatch same
  · intro first second precedes unpublished published
    obtain ⟨_, row, stored, own, status⟩ := inv.blocked first second precedes unpublished published
    refine ⟨?_, row, stored, own, status⟩
    rw [current]
    exact fun wrong => nomatch wrong
  · intro first second precedes unpublished member
    rw [ids] at member
    have emitted : first ∈ s.emitted.map OutboxEntry.id := by
      obtain ⟨early, late, sublist, _, rfl, _⟩ := precedes
      exact List.mem_map_of_mem (sublist.subset List.mem_cons_self)
    rcases inv.stored first emitted with published | ⟨row, stored, own⟩
    · exact absurd published unpublished
    · obtain ⟨ordered, waits⟩ := smooth first second precedes unpublished member row stored own
      have free : (if batch = [] then ProcessorPhase.idle else .batch batch).current ≠
          some first := by
        rw [current]
        exact fun wrong => nomatch wrong
      cases status : row.status with
      | pending =>
          rw [ids]
          exact .inr (ordered status)
      | processing => exact .inl ⟨free, row, stored, own, .inl status⟩
      | processed => exact absurd (own ▸ inv.processed row stored status) unpublished
      | failed =>
          refine .inl ⟨free, row, stored, own, .inr ⟨status, ?_⟩⟩
          have spent : ¬ row.retryCount < runtime.config.maxRetries := by
            simpa [retriable, status] using waits
          exact Nat.le_of_not_lt spent
  · exact inv.inOrder

/-- A change of the table that spares what is pending and what is dead, while the processor stays
where it is or ends its run. -/
theorem OrderInv.retable (inv : OrderInv maxRetries s) {rows : List OutboxEntry}
    {phase : ProcessorPhase} (same : phase = s.phase ∨ phase = .idle)
    (distinct : (rows.map OutboxEntry.id).Nodup)
    (old : ∀ row ∈ rows, ∃ before ∈ s.rows, before.id = row.id ∧
      before.retryCount = row.retryCount ∧ (row.status = .processed → before.status = .processed))
    (stored : ∀ row ∈ s.rows, row.id ∈ s.published ∨ ∃ after ∈ rows, after.id = row.id)
    (kept : ∀ row ∈ s.rows, phase = s.phase ∧ row.status = .pending ∨ row.status = .processing ∨
      row.status = .failed ∧ maxRetries ≤ row.retryCount → row ∈ rows) :
    OrderInv maxRetries { s with rows := rows, phase := phase } := by
  have dead : ∀ other, s.Dead maxRetries other →
      OrderState.Dead { s with rows := rows, phase := phase } maxRetries other := by
    intro other was
    obtain ⟨free, row, member, own, status⟩ := was
    refine ⟨?_, row, kept row member (.inr status), own, status⟩
    rcases same with rfl | rfl
    · exact free
    · exact fun wrong => nomatch wrong
  constructor
  · exact distinct
  · exact inv.emittedOnce
  · intro row member
    obtain ⟨before, was, own, _⟩ := old row member
    exact own ▸ inv.known before was
  · intro id member
    rcases inv.stored id member with published | ⟨row, was, own⟩
    · exact .inl published
    · exact own ▸ stored row was
  · intro row member status
    obtain ⟨before, was, own, _, too⟩ := old row member
    exact own ▸ inv.processed before was (too status)
  · exact inv.own
  · rcases same with rfl | rfl
    · exact inv.queuedOnce
    · exact List.nodup_nil
  · rcases same with rfl | rfl
    · exact inv.listed
    · exact fun _ member => nomatch member
  · intro entry member
    rcases same with rfl | rfl
    · obtain ⟨row, was, own, pending⟩ := inv.waiting entry member
      exact ⟨row, kept row was (.inl ⟨rfl, pending⟩), own, pending⟩
    · exact nomatch member
  · intro entry rest at_
    rcases same with rfl | rfl
    · exact inv.resolved entry rest at_
    · exact nomatch at_
  · intro entry rest at_ unpublished second listed precedes row member own
    rcases same with rfl | rfl
    · obtain ⟨before, was, owned, count, _⟩ := old row member
      rw [← count]
      exact inv.exhausted entry rest at_ unpublished second listed precedes before was
        (owned.trans own)
    · exact nomatch at_
  · exact fun first second precedes unpublished published =>
      dead first (inv.blocked first second precedes unpublished published)
  · intro first second precedes unpublished member
    rcases same with rfl | rfl
    · rcases inv.queued first second precedes unpublished member with was | before
      · exact .inl (dead first was)
      · exact .inr before
    · exact nomatch member
  · exact inv.inOrder

theorem OrderInv.unchanged (inv : OrderInv maxRetries s) {phase : ProcessorPhase}
    (same : phase = s.phase ∨ phase = .idle) :
    OrderInv maxRetries { s with phase := phase } :=
  inv.retable same inv.distinct (fun row member => ⟨row, member, rfl, rfl, id⟩)
    (fun row member => .inr ⟨row, member, rfl⟩) fun _ member _ => member

theorem OrderInv.reset (inv : OrderInv maxRetries s) (outcome : StatementOutcome) :
    OrderInv maxRetries { s with
      rows := outcome.change (.resetForRetry 0 maxRetries) s.rows, phase := .idle } := by
  have applied : OrderInv maxRetries { s with
      rows := effect (.resetForRetry 0 maxRetries) s.rows, phase := .idle } := by
    have ids : (effect (.resetForRetry 0 maxRetries) s.rows).map OutboxEntry.id =
        s.rows.map OutboxEntry.id := ids_updateRows fun _ => rfl
    apply inv.retable (.inr rfl)
    · rw [ids]
      exact inv.distinct
    · intro row member
      obtain ⟨before, was, rfl⟩ := mem_updateRows.mp member
      refine ⟨before, was, ?_⟩
      split
      · exact ⟨rfl, rfl, fun wrong => nomatch wrong⟩
      · exact ⟨rfl, rfl, id⟩
    · intro row member
      have listed : row.id ∈ (effect (.resetForRetry 0 maxRetries) s.rows).map OutboxEntry.id := by
        rw [ids]
        exact List.mem_map_of_mem member
      obtain ⟨after, here, own⟩ := List.mem_map.mp listed
      exact .inr ⟨after, here, own⟩
    · intro row member status
      refine mem_updateRows.mpr ⟨row, member, ?_⟩
      have spared : retriable maxRetries row = false := by
        unfold retriable
        rcases status with ⟨_, pending⟩ | processing | ⟨_, spent⟩
        · simp [pending]
        · simp [processing]
        · simp [Nat.not_lt.mpr spent]
      rw [spared]
      rfl
  exact @StatementOutcome.change_of
    (fun rows => OrderInv maxRetries { s with rows := rows, phase := .idle }) _ _ outcome applied
    (inv.unchanged (.inr rfl))

theorem OrderInv.delete (inv : OrderInv maxRetries s) (olderThan : Nat)
    (outcome : StatementOutcome) :
    OrderInv maxRetries { s with
      rows := outcome.change (.deleteProcessed 0 olderThan) s.rows } := by
  have applied : OrderInv maxRetries { s with
      rows := effect (.deleteProcessed 0 olderThan) s.rows } := by
    have alive : ∀ row ∈ s.rows, row.status ≠ .processed →
        row ∈ effect (.deleteProcessed 0 olderThan) s.rows := by
      intro row member status
      refine List.mem_filter.mpr ⟨member, ?_⟩
      simp [expiredBefore, status]
    apply inv.retable (.inl rfl)
    · exact inv.distinct.sublist (List.filter_sublist.map OutboxEntry.id)
    · intro row member
      exact ⟨row, (List.mem_filter.mp member).1, rfl, rfl, id⟩
    · intro row member
      by_cases status : row.status = .processed
      · exact .inl (inv.processed row member status)
      · exact .inr ⟨row, alive row member status, rfl⟩
    · intro row member status
      apply alive row member
      intro processed
      rcases status with ⟨_, other⟩ | other | ⟨other, _⟩ <;>
        exact absurd (processed.symm.trans other) (by decide)
  exact @StatementOutcome.change_of
    (fun rows => OrderInv maxRetries { s with rows := rows }) _ _ outcome applied inv

/-- The events that were there before keep their order, and new ones come behind them. -/
theorem precedes_of_append {s : OrderState} {added : List OutboxEntry} {first second : String}
    {rows : List OutboxEntry}
    (precedes : OrderState.Precedes { s with rows := rows, emitted := s.emitted ++ added } first
      second)
    (old : second ∉ added.map OutboxEntry.id) : s.Precedes first second := by
  obtain ⟨early, late, sublist, same, own, also⟩ := precedes
  refine ⟨early, late, ?_, same, own, also⟩
  obtain ⟨left, right, split, inside, behind⟩ := List.sublist_append_iff.mp sublist
  rcases List.eq_nil_or_concat right with none | ⟨others, last, whole⟩
  · rw [none, List.append_nil] at split
    rw [split]
    exact inside
  · rw [List.concat_eq_append] at whole
    have ends : late = last := by
      have lasts := congrArg List.getLast? split
      rw [whole, ← List.append_assoc, List.getLast?_concat] at lasts
      exact Option.some.inj lasts
    have member : late ∈ added := by
      apply behind.subset
      rw [whole, ends]
      exact List.mem_append_right _ List.mem_cons_self
    exact absurd (also ▸ List.mem_map_of_mem member) old

theorem OrderInv.add (inv : OrderInv maxRetries s) {added : List OutboxEntry}
    (new : fresh s.emitted added = true) (pending : ∀ row ∈ added, row.status = .pending) :
    OrderInv maxRetries { s with rows := s.rows ++ added, emitted := s.emitted ++ added } := by
  unfold fresh at new
  rw [Bool.and_eq_true] at new
  obtain ⟨once, unknown⟩ := new
  have once := of_decide_eq_true once
  have apart : ∀ id ∈ s.emitted.map OutboxEntry.id, id ∉ added.map OutboxEntry.id := by
    intro id member also
    obtain ⟨known, listed, rfl⟩ := List.mem_map.mp member
    obtain ⟨row, here, same⟩ := List.mem_map.mp also
    have absent := List.all_eq_true.mp unknown row here
    rw [Bool.not_eq_true', List.any_eq_false] at absent
    exact absent known listed (decide_eq_true same.symm)
  have oldRow : ∀ row ∈ s.rows, row.id ∉ added.map OutboxEntry.id := fun row member =>
    apart row.id (inv.known row member)
  have dead : ∀ other, s.Dead maxRetries other → OrderState.Dead { s with
      rows := s.rows ++ added, emitted := s.emitted ++ added } maxRetries other := by
    intro other was
    obtain ⟨free, row, member, own, status⟩ := was
    exact ⟨free, row, List.mem_append_left _ member, own, status⟩
  constructor
  · rw [List.map_append, List.nodup_append]
    refine ⟨inv.distinct, once, ?_⟩
    intro id member other also same
    obtain ⟨row, stored, rfl⟩ := List.mem_map.mp member
    exact oldRow row stored (same ▸ also)
  · rw [List.map_append, List.nodup_append]
    exact ⟨inv.emittedOnce, once, fun id member other also same => apart id member (same ▸ also)⟩
  · intro row member
    rw [List.map_append, List.mem_append]
    rcases List.mem_append.mp member with stored | here
    · exact .inl (inv.known row stored)
    · exact .inr (List.mem_map_of_mem here)
  · intro id member
    rw [List.map_append, List.mem_append] at member
    rcases member with emitted | here
    · rcases inv.stored id emitted with published | ⟨row, stored, own⟩
      · exact .inl published
      · exact .inr ⟨row, List.mem_append_left _ stored, own⟩
    · obtain ⟨row, here, own⟩ := List.mem_map.mp here
      exact .inr ⟨row, List.mem_append_right _ here, own⟩
  · intro row member status
    rcases List.mem_append.mp member with stored | here
    · exact inv.processed row stored status
    · exact absurd ((pending row here).symm.trans status) (by decide)
  · intro id member
    rw [List.map_append]
    exact List.mem_append_left _ (inv.own id member)
  · exact inv.queuedOnce
  · intro id member
    rw [List.map_append]
    exact List.mem_append_left _ (inv.listed id member)
  · intro entry member
    obtain ⟨row, stored, own, waits⟩ := inv.waiting entry member
    exact ⟨row, List.mem_append_left _ stored, own, waits⟩
  · exact inv.resolved
  · intro entry rest at_ unpublished second listed precedes row member own
    have queued : second ∈ s.phase.ids := by
      rw [show s.phase = .rejected entry rest from at_]
      exact List.mem_append_right _ listed
    have held : entry.id ∈ s.phase.ids := by
      rw [show s.phase = .rejected entry rest from at_]
      exact List.mem_cons_self
    have was := precedes_of_append precedes (apart second (inv.listed second queued))
    rcases List.mem_append.mp member with stored | here
    · exact inv.exhausted entry rest at_ unpublished second listed was row stored own
    · exact absurd (own ▸ List.mem_map_of_mem here) (apart entry.id (inv.listed entry.id held))
  · intro first second precedes unpublished published
    have was := precedes_of_append precedes (apart second (inv.own second published))
    exact dead first (inv.blocked first second was unpublished published)
  · intro first second precedes unpublished member
    have was := precedes_of_append precedes (apart second (inv.listed second member))
    rcases inv.queued first second was unpublished member with gone | before
    · exact .inl (dead first gone)
    · exact .inr before
  · intro first second precedes early late
    exact inv.inOrder first second
      (precedes_of_append precedes (apart second (inv.own second late))) early late

end Steps

/-! ### Runs -/

section Runs

variable {runtime : OutboxRuntime} {s next : OrderState}

theorem orderInv_step (inv : OrderInv runtime.config.maxRetries s) {step : OrderStep}
    (smooth : s.Smooth runtime step) (stepped : s.step runtime step = some next) :
    OrderInv runtime.config.maxRetries next := by
  cases step with
  | addMany events now outcome =>
      simp only [OrderState.step] at stepped
      split at stepped
      · obtain rfl := Option.some.inj stepped
        exact inv
      split at stepped
      · next new =>
          obtain rfl := Option.some.inj stepped
          apply inv.add new
          intro row member
          obtain ⟨event, _, rfl⟩ := List.mem_map.mp member
          rfl
      · exact nomatch stepped
  | getPending answer =>
      simp only [OrderState.step] at stepped
      split at stepped
      · obtain rfl := Option.some.inj stepped
        exact inv
      · next batch _ =>
          split at stepped
          · next valid =>
              obtain rfl := Option.some.inj stepped
              exact inv.poll valid smooth
          · exact nomatch stepped
      · exact nomatch stepped
  | markAsProcessing outcome =>
      simp only [OrderState.step] at stepped
      split at stepped
      · next entry rest at_ =>
          obtain rfl := Option.some.inj stepped
          exact inv.acquire at_ outcome
      · exact nomatch stepped
  | publish resolves =>
      simp only [OrderState.step] at stepped
      split at stepped
      · next entry rest at_ =>
          cases resolves with
          | true =>
              obtain rfl := Option.some.inj stepped
              exact inv.resolve at_
          | false =>
              obtain rfl := Option.some.inj stepped
              apply inv.reject at_
              simp only [OrderState.Smooth, at_] at smooth
              exact smooth
      · exact nomatch stepped
  | markAsProcessed now outcome =>
      simp only [OrderState.step] at stepped
      split at stepped
      · next entry rest at_ =>
          obtain rfl := Option.some.inj stepped
          exact inv.process at_ now outcome
      · exact nomatch stepped
  | markAsFailed error outcome =>
      simp only [OrderState.step] at stepped
      split at stepped
      · next entry rest at_ =>
          obtain rfl := Option.some.inj stepped
          exact inv.fail at_ error outcome
      · exact nomatch stepped
  | resetForRetry outcome =>
      simp only [OrderState.step] at stepped
      split at stepped
      · obtain rfl := Option.some.inj stepped
        exact inv.reset outcome
      · exact nomatch stepped
  | deleteProcessed olderThan outcome =>
      obtain rfl := Option.some.inj stepped
      exact inv.delete olderThan outcome
  | restart =>
      obtain rfl := Option.some.inj stepped
      exact inv.unchanged (.inr rfl)

theorem orderInv_run (run : SmoothRun runtime s) : OrderInv runtime.config.maxRetries s := by
  induction run with
  | initial => exact orderInv_initial _
  | step run smooth stepped ih => exact orderInv_step ih smooth stepped

/-- Where the steps are smooth, the events of an aggregate are published in the order in which it
emitted them. -/
theorem published_in_order (run : SmoothRun runtime s) : s.InOrder := (orderInv_run run).inOrder

end Runs

/-! ### Two events of a ticket -/

def ticketClosed : DomainEvent :=
  ⟨"e-2", "TicketClosed", "t-1", "Ticket", 0, .null⟩

def openedRow (now : Nat) : OutboxEntry := OutboxRepository.row ticketRuntime now ticketOpened

def closedRow (now : Nat) : OutboxEntry := OutboxRepository.row ticketRuntime now ticketClosed

/-- The entry at the head of the batch is published. -/
def delivery : List OrderStep := [.markAsProcessing .ok, .publish true, .markAsProcessed 1 .ok]

/-- Both events are inserted at once, and the batch lists them the other way round. -/
def tiedRun : List OrderStep :=
  [.addMany [ticketOpened, ticketClosed] 0 .ok, .getPending (some [closedRow 0, openedRow 0])] ++
    delivery ++ delivery

/-- The first event is rejected, the second one is published, and then the first one is. -/
def retriedRun : List OrderStep :=
  [.addMany [ticketOpened] 0 .ok, .addMany [ticketClosed] 1 .ok,
      .getPending (some [openedRow 0, closedRow 1]), .markAsProcessing .ok, .publish false,
      .markAsFailed "unavailable" .ok] ++ delivery ++
    [.resetForRetry .ok, .getPending (some [{ openedRow 0 with
      retryCount := 1, lastError := some "unavailable" }])] ++ delivery

theorem disordered {final : OrderState} {now : Nat}
    (emitted : final.emitted = [openedRow 0, closedRow now])
    (published : final.published = ["e-2", "e-1"]) : ¬ final.InOrder := by
  intro ordered
  have precedes : final.Precedes "e-1" "e-2" :=
    ⟨openedRow 0, closedRow now, emitted ▸ List.Sublist.refl _, rfl, rfl, rfl⟩
  have before := ordered "e-1" "e-2" precedes (by rw [published]; decide)
    (by rw [published]; decide)
  rw [published] at before
  exact absurd before (by decide)

theorem published_out_of_order :
    (∃ final, OrderState.initial.steps ticketRuntime tiedRun = some final ∧
        final.published = ["e-2", "e-1"] ∧ ¬ final.InOrder) ∧
      ∃ final, OrderState.initial.steps ticketRuntime retriedRun = some final ∧
        final.published = ["e-2", "e-1"] ∧ ¬ final.InOrder := by
  have reached : ∀ steps now,
      (OrderState.initial.steps ticketRuntime steps).map
        (fun final => (final.emitted, final.published)) =
          some ([openedRow 0, closedRow now], ["e-2", "e-1"]) →
      ∃ final, OrderState.initial.steps ticketRuntime steps = some final ∧
        final.published = ["e-2", "e-1"] ∧ ¬ final.InOrder := by
    intro steps now ran
    obtain ⟨final, ended, both⟩ := Option.map_eq_some_iff.mp ran
    obtain ⟨emitted, published⟩ := Prod.mk.inj both
    exact ⟨final, ended, published, disordered emitted published⟩
  exact ⟨reached tiedRun 0 (by decide +kernel), reached retriedRun 1 (by decide +kernel)⟩

/-- The steps that are smooth wherever they are taken. -/
def OrderStep.plain : OrderStep → Bool
  | .getPending (some _) | .publish false => false
  | _ => true

theorem smoothRun_steps {runtime : OutboxRuntime} {steps : List OrderStep}
    (plain : ∀ step ∈ steps, step.plain = true) {s final : OrderState} (run : SmoothRun runtime s)
    (ran : s.steps runtime steps = some final) : SmoothRun runtime final := by
  induction steps generalizing s with
  | nil =>
      obtain rfl := Option.some.inj ran
      exact run
  | cons step rest ih =>
      unfold OrderState.steps at ran
      rw [List.foldlM_cons] at ran
      obtain ⟨middle, stepped, others⟩ := Option.bind_eq_some_iff.mp ran
      refine ih (fun other member => plain other (List.mem_cons_of_mem step member))
        (run.step ?_ stepped) others
      have own := plain step List.mem_cons_self
      cases step with
      | getPending batch =>
          cases batch with
          | none => trivial
          | some batch => exact Bool.noConfusion own
      | publish resolves =>
          cases resolves with
          | true => trivial
          | false => exact Bool.noConfusion own
      | _ => trivial

/-- The events are inserted one after the other, and published so. -/
theorem published_in_order_ticket : ∃ final,
    OrderState.initial.steps ticketRuntime ([.addMany [ticketOpened] 0 .ok,
      .addMany [ticketClosed] 1 .ok, .getPending (some [openedRow 0, closedRow 1])] ++
        delivery ++ delivery) = some final ∧
      final.published = ["e-1", "e-2"] ∧ final.InOrder := by
  let rows := [openedRow 0, closedRow 1]
  have added : SmoothRun ticketRuntime ⟨rows, .idle, rows, []⟩ := by
    refine @smoothRun_steps _ [.addMany [ticketOpened] 0 .ok, .addMany [ticketClosed] 1 .ok]
      ?_ _ _ .initial rfl
    intro step member
    rcases List.mem_cons.mp member with rfl | member
    · rfl
    · obtain rfl := List.mem_singleton.mp member
      rfl
  have polled : SmoothRun ticketRuntime ⟨rows, .batch rows, rows, []⟩ := by
    refine @SmoothRun.step _ _ _ (.getPending (some rows)) added ?_ rfl
    intro first second precedes _ _ row member own
    obtain ⟨early, late, sublist, _, rfl, rfl⟩ := precedes
    have both : [early, late] = rows := sublist.eq_of_length rfl
    refine ⟨fun _ => ?_, ?_⟩
    · rw [← both]
      exact List.Sublist.refl _
    · rcases List.mem_cons.mp member with rfl | member
      · rfl
      · obtain rfl := List.mem_singleton.mp member
        rfl
  obtain ⟨final, ran, published⟩ : ∃ final,
      (OrderState.mk rows (.batch rows) rows []).steps ticketRuntime (delivery ++ delivery) =
        some final ∧ final.published = ["e-1", "e-2"] := ⟨_, rfl, rfl⟩
  refine ⟨final, ran, published, published_in_order (smoothRun_steps ?_ polled ran)⟩
  intro step member
  simp only [delivery, List.cons_append, List.nil_append, List.mem_cons, List.not_mem_nil,
    or_false] at member
  rcases member with rfl | rfl | rfl | rfl | rfl | rfl <;> rfl

end SelfService
