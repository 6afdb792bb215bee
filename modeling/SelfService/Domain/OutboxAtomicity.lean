/-
Saving an aggregate together with its events.

`persistWithOutbox` writes the aggregate and then the events, and leaves it to its caller whether
both go through one transaction.  A statement may fail after it has taken effect.
-/

import SelfService.Domain.AggregateRepository

namespace SelfService

open Data AggregateRoot

/-! ### Statements that fail -/

/-- The error of a statement, and whether the statement has taken effect nevertheless. -/
structure StatementFailure where
  applied : Bool
  error : Exn

/-- How the write of the aggregate and the insert of the events fail, if they do. -/
structure SaveFailures where
  persist : Option StatementFailure
  addMany : Option StatementFailure

def noFailures : SaveFailures := ⟨none, none⟩

/-- What a save leaves: its outcome, the aggregate in memory, and the tables. -/
structure SaveEnd (α : Type) where
  outcome : Except Exn Unit
  aggregate : AggregateRoot α
  store : AggregateStore α

section Saving

variable {α : Type}

/-- The primary key of the outbox: the ids are new, and no two are the same. -/
def IdsFree (events : List DomainEvent) (store : AggregateStore α) : Prop :=
  (events.map DomainEvent.eventId).Nodup ∧
    ∀ event ∈ events, event.eventId ∉ store.outbox.map DomainEvent.eventId

instance (events : List DomainEvent) (store : AggregateStore α) :
    Decidable (IdsFree events store) := by
  unfold IdsFree
  infer_instance

def appended (events : List DomainEvent) (store : AggregateStore α) : AggregateStore α :=
  { store with outbox := store.outbox ++ events }

/-- One insert for all events. -/
def addManyIn (failure : Option StatementFailure) (events : List DomainEvent)
    (store : AggregateStore α) : Stored α Unit :=
  if IdsFree events store then
    match failure with
    | none => (.ok (), appended events store)
    | some failed => (.error failed.error, if failed.applied then appended events store else store)
  else
    match failure with
    | none => (.error (.error "duplicate key value violates unique constraint"), store)
    | some failed => (.error failed.error, store)

/-- `persist` of a subclass that keeps its contract. -/
def persistIn (failure : Option StatementFailure) (aggregate : AggregateRoot α)
    (expectedVersion : Nat) (store : AggregateStore α) : Stored α Unit :=
  match failure with
  | none => persist aggregate expectedVersion store
  | some failed =>
      (.error failed.error,
        if failed.applied then (persist aggregate expectedVersion store).2 else store)

def persistWithOutboxIn (failures : SaveFailures) (aggregate : AggregateRoot α)
    (expectedVersion : Nat) (events : List DomainEvent) (store : AggregateStore α) :
    Stored α Unit :=
  thenStore (persistIn failures.persist aggregate expectedVersion store) fun store =>
    if events = [] then (.ok (), store) else addManyIn failures.addMany events store

/-- The owner of a transaction rolls it back when the save is rejected. -/
def settledBy (transaction : Bool) (before : AggregateStore α) (ended : Stored α Unit) :
    Stored α Unit :=
  match transaction, ended with
  | true, (.error error, _) => (.error error, before)
  | _, ended => ended

/-- `save` with the outbox pattern enabled, within a transaction or without one. -/
def saveWithOutbox (failures : SaveFailures) (transaction : Bool) (aggregate : AggregateRoot α)
    (store : AggregateStore α) : SaveEnd α :=
  let ended := settledBy transaction store (persistWithOutboxIn failures aggregate
    (expectedVersion aggregate) aggregate.getDomainEvents store)
  match ended with
  | (.ok _, after) => ⟨.ok (), aggregate.clearDomainEvents, after⟩
  | (.error error, after) => ⟨.error error, aggregate, after⟩

/-! ### All or nothing -/

/-- The new state and all events are stored, or neither is and the events stay pending. -/
def AllOrNothing (aggregate : AggregateRoot α) (store : AggregateStore α) (ended : SaveEnd α) :
    Prop :=
  (ended.store.rows.get? aggregate.id = some ⟨aggregate.version, aggregate.state⟩ ∧
    ∀ event ∈ aggregate.getDomainEvents, event ∈ ended.store.outbox) ∨
  (ended.store.rows = store.rows ∧ ended.store.outbox = store.outbox ∧
    ended.aggregate.getDomainEvents = aggregate.getDomainEvents)

/-- After a rejected save that met no newer version and no used id, the next one leaves every
event in the outbox exactly once. -/
def RetryStoresOnce (aggregate : AggregateRoot α) (store : AggregateStore α) (ended : SaveEnd α) :
    Prop :=
  ∀ error transaction, ended.outcome = .error error →
    writes store aggregate.id (expectedVersion aggregate) = true →
    IdsFree aggregate.getDomainEvents store →
    ∀ event ∈ aggregate.getDomainEvents,
      ((saveWithOutbox noFailures transaction ended.aggregate ended.store).store.outbox.map
        DomainEvent.eventId).count event.eventId = 1

/-- The write of the aggregate takes effect. -/
def aggregateWritten (failures : SaveFailures) (aggregate : AggregateRoot α)
    (store : AggregateStore α) : Bool :=
  writes store aggregate.id (expectedVersion aggregate) &&
    failures.persist.all StatementFailure.applied

/-- The insert of the events is reached and takes effect. -/
def EventsInserted (failures : SaveFailures) (aggregate : AggregateRoot α)
    (store : AggregateStore α) : Prop :=
  failures.persist.isNone = true ∧ IdsFree aggregate.getDomainEvents store ∧
    failures.addMany.all StatementFailure.applied = true

instance (failures : SaveFailures) (aggregate : AggregateRoot α) (store : AggregateStore α) :
    Decidable (EventsInserted failures aggregate store) := by
  unfold EventsInserted
  infer_instance

variable {failures : SaveFailures} {aggregate : AggregateRoot α} {store : AggregateStore α}

/-- A write gives the row its next version. -/
theorem row_changed (written : writes store aggregate.id (expectedVersion aggregate) = true) :
    store.rows.get? aggregate.id ≠ some ⟨aggregate.version, aggregate.state⟩ := by
  intro same
  unfold writes at written
  rw [same] at written
  simp only [Bool.and_eq_true, decide_eq_true_eq] at written
  unfold expectedVersion at written
  split at written <;> omega

/-- Once it is written, the aggregate in memory is a version behind. -/
theorem writes_written {later : AggregateStore α}
    (row : later.rows.get? aggregate.id = some ⟨aggregate.version, aggregate.state⟩) :
    writes later aggregate.id (expectedVersion aggregate) = false := by
  unfold writes expectedVersion
  rw [row]
  simp only [Bool.and_eq_false_iff, decide_eq_false_iff_not]
  split <;> omega

theorem persist_outbox (expected : Nat) :
    (persist aggregate expected store).2.outbox = store.outbox := by
  unfold persist
  simp only
  split
  · rfl
  · split <;> rfl

theorem persist_ok (written : writes store aggregate.id (expectedVersion aggregate) = true) :
    (persist aggregate (expectedVersion aggregate) store).1 = .ok () := by
  unfold persist
  simp only [written, if_true]

theorem persist_error (rejected : writes store aggregate.id (expectedVersion aggregate) = false) :
    ∃ error, (persist aggregate (expectedVersion aggregate) store).1 = .error error := by
  unfold persist
  simp only [rejected, Bool.false_eq_true, if_false]
  split
  · exact ⟨_, rfl⟩
  · exact ⟨_, rfl⟩

theorem idsFree_persist (expected : Nat) (events : List DomainEvent) :
    IdsFree events (persist aggregate expected store).2 ↔ IdsFree events store := by
  unfold IdsFree
  rw [persist_outbox]

theorem addManyIn_rows (failure : Option StatementFailure) (events : List DomainEvent) :
    (addManyIn failure events store).2.rows = store.rows := by
  unfold addManyIn
  split
  · split
    · rfl
    · split <;> rfl
  · split <;> rfl

/-- The tables after both statements, before a transaction ends. -/
abbrev attempted (failures : SaveFailures) (aggregate : AggregateRoot α)
    (store : AggregateStore α) : Stored α Unit :=
  persistWithOutboxIn failures aggregate (expectedVersion aggregate) aggregate.getDomainEvents store

theorem attempted_rows : (attempted failures aggregate store).2.rows =
    if aggregateWritten failures aggregate store then
      store.rows.set aggregate.id ⟨aggregate.version, aggregate.state⟩
    else store.rows := by
  have kept : (attempted failures aggregate store).2.rows =
      (persistIn failures.persist aggregate (expectedVersion aggregate) store).2.rows := by
    apply thenStore_keeps AggregateStore.rows
    intro later
    split
    · rfl
    · exact addManyIn_rows failures.addMany _
  rw [kept]
  unfold persistIn aggregateWritten
  cases failures.persist with
  | none => simp [persist_rows]
  | some failed => cases applied : failed.applied <;> simp [persist_rows, applied]

theorem attempted_outbox : (attempted failures aggregate store).2.outbox =
    if aggregateWritten failures aggregate store = true ∧
        EventsInserted failures aggregate store then
      store.outbox ++ aggregate.getDomainEvents
    else store.outbox := by
  obtain ⟨persistFailure, addManyFailure⟩ := failures
  unfold attempted persistWithOutboxIn persistIn EventsInserted aggregateWritten
  cases persistFailure with
  | some failed =>
      simp only [thenStore, Option.isNone_some, Bool.false_eq_true, false_and, and_false, if_false]
      split
      · exact persist_outbox _
      · rfl
  | none =>
      cases written : writes store aggregate.id (expectedVersion aggregate) with
      | false =>
          obtain ⟨error, rejected⟩ := persist_error written
          have ended : persist aggregate (expectedVersion aggregate) store =
              (.error error, (persist aggregate (expectedVersion aggregate) store).2) :=
            Prod.ext rejected rfl
          rw [ended]
          simp [thenStore, persist_outbox]
      | true =>
          have ended : persist aggregate (expectedVersion aggregate) store =
              (.ok (), (persist aggregate (expectedVersion aggregate) store).2) :=
            Prod.ext (persist_ok written) rfl
          rw [ended]
          simp only [thenStore]
          by_cases none : aggregate.getDomainEvents = []
          · simp [none, persist_outbox]
          · rw [if_neg none]
            unfold addManyIn
            by_cases free : IdsFree aggregate.getDomainEvents store
            · rw [if_pos ((idsFree_persist _ _).mpr free)]
              cases addManyFailure with
              | none => simp [appended, persist_outbox, free]
              | some failed => cases applied : failed.applied <;>
                  simp [appended, persist_outbox, free, applied]
            · rw [if_neg fun later => free ((idsFree_persist _ _).mp later)]
              cases addManyFailure <;> simp [persist_outbox, free]

/-- A save that resolves has written everything. -/
theorem attempted_ok (resolved : (attempted failures aggregate store).1 = .ok ()) :
    aggregateWritten failures aggregate store = true ∧
      (EventsInserted failures aggregate store ∨ aggregate.getDomainEvents = []) := by
  unfold attempted persistWithOutboxIn persistIn at resolved
  unfold EventsInserted aggregateWritten
  cases persisted : failures.persist with
  | some failed =>
      rw [persisted] at resolved
      cases resolved
  | none =>
      rw [persisted] at resolved
      cases written : writes store aggregate.id (expectedVersion aggregate) with
      | false =>
          obtain ⟨error, rejected⟩ := persist_error written
          have ended : persist aggregate (expectedVersion aggregate) store =
              (.error error, (persist aggregate (expectedVersion aggregate) store).2) :=
            Prod.ext rejected rfl
          rw [ended] at resolved
          cases resolved
      | true =>
          refine ⟨rfl, ?_⟩
          have ended : persist aggregate (expectedVersion aggregate) store =
              (.ok (), (persist aggregate (expectedVersion aggregate) store).2) :=
            Prod.ext (persist_ok written) rfl
          rw [ended] at resolved
          simp only [thenStore] at resolved
          by_cases none : aggregate.getDomainEvents = []
          · exact Or.inr none
          · rw [if_neg none] at resolved
            unfold addManyIn at resolved
            by_cases free : IdsFree aggregate.getDomainEvents store
            · rw [if_pos ((idsFree_persist _ _).mpr free)] at resolved
              cases added : failures.addMany with
              | none => exact Or.inl ⟨rfl, free, rfl⟩
              | some failed => rw [added] at resolved; cases resolved
            · rw [if_neg fun later => free ((idsFree_persist _ _).mp later)] at resolved
              cases added : failures.addMany with
              | none => rw [added] at resolved; cases resolved
              | some failed => rw [added] at resolved; cases resolved

/-- Where the save is not rejected in a transaction, the tables are as attempted. -/
theorem saveWithOutbox_end (transaction : Bool) :
    ((attempted failures aggregate store).1 = .ok () ∧
      saveWithOutbox failures transaction aggregate store =
        ⟨.ok (), aggregate.clearDomainEvents, (attempted failures aggregate store).2⟩) ∨
    ∃ error, (attempted failures aggregate store).1 = .error error ∧
      saveWithOutbox failures transaction aggregate store =
        ⟨.error error, aggregate,
          if transaction then store else (attempted failures aggregate store).2⟩ := by
  have shape : saveWithOutbox failures transaction aggregate store =
      match settledBy transaction store (attempted failures aggregate store) with
      | (.ok _, after) => ⟨.ok (), aggregate.clearDomainEvents, after⟩
      | (.error error, after) => ⟨.error error, aggregate, after⟩ := rfl
  rw [shape]
  generalize attempted failures aggregate store = ended
  obtain ⟨outcome, after⟩ := ended
  cases outcome with
  | ok value => exact Or.inl ⟨rfl, by cases transaction <;> rfl⟩
  | error error => exact Or.inr ⟨error, rfl, by cases transaction <;> rfl⟩

/-- Where the statements fail cleanly this is the `save` of before. -/
theorem saveWithOutbox_store {repository : Repository} {options : SaveOptions} {channel : Channel}
    (outbox : usesOutbox options repository = true)
    (free : IdsFree aggregate.getDomainEvents store)
    (added : failures = ⟨none, match channel.addMany with
      | .ok _ => none
      | .error error => some ⟨false, error⟩⟩) :
    (saveWithOutbox failures false aggregate store).store =
      (save repository options channel aggregate store).2 := by
  have plain : (save repository options channel aggregate store).2 =
      (persistWithOutbox channel aggregate (expectedVersion aggregate) aggregate.getDomainEvents
        store).2 := by
    unfold save
    simp only [if_pos outbox]
    exact thenStore_keeps id fun _ => rfl
  have same : (attempted failures aggregate store).2 =
      (persistWithOutbox channel aggregate (expectedVersion aggregate) aggregate.getDomainEvents
        store).2 := by
    rw [added]
    unfold attempted persistWithOutboxIn persistIn persistWithOutbox
    have later := (@idsFree_persist α aggregate store
      (expectedVersion aggregate) aggregate.getDomainEvents).mpr free
    simp only
    generalize persist aggregate (expectedVersion aggregate) store = ended at later
    obtain ⟨outcome, after⟩ := ended
    cases outcome with
    | error error => rfl
    | ok value =>
        simp only [thenStore]
        split
        · rfl
        · unfold addManyIn addMany
          rw [if_pos later]
          cases channel.addMany <;> rfl
  rw [plain, ← same]
  rcases @saveWithOutbox_end α failures aggregate store
    false with success | failure
  · rw [success.2]
  · obtain ⟨error, -, ended⟩ := failure
    rw [ended]
    rfl

/-! ### The next save -/

theorem attempted_noFailures
    (written : writes store aggregate.id (expectedVersion aggregate) = true)
    (free : IdsFree aggregate.getDomainEvents store) :
    (attempted noFailures aggregate store).1 = .ok () := by
  have ended : persist aggregate (expectedVersion aggregate) store =
      (.ok (), (persist aggregate (expectedVersion aggregate) store).2) :=
    Prod.ext (persist_ok written) rfl
  unfold attempted persistWithOutboxIn persistIn noFailures
  simp only
  rw [ended]
  simp only [thenStore]
  split
  · rfl
  · unfold addManyIn
    rw [if_pos ((idsFree_persist _ _).mpr free)]

theorem retry_stores (transaction : Bool)
    (written : writes store aggregate.id (expectedVersion aggregate) = true)
    (free : IdsFree aggregate.getDomainEvents store) :
    (saveWithOutbox noFailures transaction aggregate store).store.outbox =
      store.outbox ++ aggregate.getDomainEvents := by
  have resolved := attempted_noFailures written free
  have inserted : EventsInserted noFailures aggregate store := ⟨rfl, free, rfl⟩
  have row : aggregateWritten noFailures aggregate store = true := by
    unfold aggregateWritten
    rw [written]
    rfl
  rcases @saveWithOutbox_end α noFailures aggregate store
    transaction with success | failure
  · rw [success.2]
    exact attempted_outbox.trans (if_pos ⟨row, inserted⟩)
  · obtain ⟨error, failed, -⟩ := failure
    rw [resolved] at failed
    cases failed

theorem retry_rejected (transaction : Bool)
    (behind : writes store aggregate.id (expectedVersion aggregate) = false) :
    (saveWithOutbox noFailures transaction aggregate store).store.outbox = store.outbox := by
  have unwritten : ¬ (aggregateWritten noFailures aggregate store = true ∧
      EventsInserted noFailures aggregate store) := by
    intro both
    have written := both.1
    unfold aggregateWritten at written
    rw [behind] at written
    cases written
  have same : (attempted noFailures aggregate store).2.outbox = store.outbox :=
    attempted_outbox.trans (if_neg unwritten)
  rcases @saveWithOutbox_end α noFailures aggregate store
    transaction with success | failure
  · rw [success.2]
    exact same
  · obtain ⟨error, -, ended⟩ := failure
    rw [ended]
    cases transaction with
    | true => rfl
    | false => exact same

theorem count_appended {events : List DomainEvent} (free : IdsFree events store)
    {event : DomainEvent} (member : event ∈ events) :
    ((store.outbox ++ events).map DomainEvent.eventId).count event.eventId = 1 := by
  rw [List.map_append, List.count_append, List.count_eq_zero_of_not_mem (free.2 event member),
    List.count_eq_one_of_mem free.1 (List.mem_map_of_mem member)]

/-! ### When both are stored or neither -/

/-- The aggregate is written, and some event is neither inserted nor there already. -/
def Torn (failures : SaveFailures) (aggregate : AggregateRoot α) (store : AggregateStore α) :
    Prop :=
  aggregateWritten failures aggregate store = true ∧ ¬ EventsInserted failures aggregate store ∧
    ∃ event ∈ aggregate.getDomainEvents, event ∉ store.outbox

/-- A rejected save that left the tables alone is repeated by the next one. -/
theorem untouched_together {later : AggregateStore α} (error : Exn)
    (rows : later.rows = store.rows) (outbox : later.outbox = store.outbox) :
    AllOrNothing aggregate store ⟨.error error, aggregate, later⟩ ∧
      RetryStoresOnce aggregate store ⟨.error error, aggregate, later⟩ := by
  refine ⟨Or.inr ⟨rows, outbox, rfl⟩, ?_⟩
  intro _ transaction _ written free event member
  have writable : writes later aggregate.id (expectedVersion aggregate) = true := by
    unfold writes at written ⊢
    rw [rows]
    exact written
  have stillFree : IdsFree aggregate.getDomainEvents later := by
    unfold IdsFree at free ⊢
    rw [outbox]
    exact free
  rw [retry_stores transaction writable stillFree]
  exact count_appended stillFree member

/-- Without a transaction a rejected save leaves both or neither exactly when it is not torn. -/
theorem rejected_together_iff (error : Exn) :
    (AllOrNothing aggregate store
        ⟨.error error, aggregate, (attempted failures aggregate store).2⟩ ∧
      RetryStoresOnce aggregate store
        ⟨.error error, aggregate, (attempted failures aggregate store).2⟩) ↔
      ¬ Torn failures aggregate store := by
  have rows := @attempted_rows α failures aggregate store
  have outbox := @attempted_outbox α failures aggregate store
  by_cases written : aggregateWritten failures aggregate store = true
  · rw [if_pos written] at rows
    have row : (attempted failures aggregate store).2.rows.get? aggregate.id =
        some ⟨aggregate.version, aggregate.state⟩ := by
      rw [rows]
      exact OrderedMap.get?_set_self _ aggregate.id _
    have writable := (Bool.and_eq_true_iff.mp written).1
    by_cases inserted : EventsInserted failures aggregate store
    · rw [if_pos ⟨written, inserted⟩] at outbox
      refine ⟨fun _ torn => torn.2.1 inserted, fun _ => ⟨Or.inl ⟨row, ?_⟩, ?_⟩⟩
      · intro event member
        rw [outbox]
        exact List.mem_append_right store.outbox member
      · intro _ transaction _ _ free event member
        rw [retry_rejected transaction (writes_written row), outbox]
        exact count_appended free member
    · rw [if_neg fun both => inserted both.2] at outbox
      constructor
      · intro together torn
        obtain ⟨event, member, missing⟩ := torn.2.2
        rcases together.1 with both | neither
        · have there := both.2 event member
          rw [outbox] at there
          exact missing there
        · have unchanged := row
          rw [neither.1] at unchanged
          exact row_changed writable unchanged
      · intro whole
        have there : ∀ event ∈ aggregate.getDomainEvents, event ∈ store.outbox := by
          intro event member
          by_contra missing
          exact whole ⟨written, inserted, event, member, missing⟩
        refine ⟨Or.inl ⟨row, fun event member => ?_⟩, ?_⟩
        · rw [outbox]
          exact there event member
        · intro _ _ _ _ free event member
          exact absurd (List.mem_map_of_mem (there event member)) (free.2 event member)
  · rw [if_neg written] at rows
    rw [if_neg fun both => written both.1] at outbox
    exact ⟨fun _ torn => written torn.1, fun _ => untouched_together error rows outbox⟩

/-- The aggregate and its events are stored together, now or by the next save, if and only if a
transaction is passed or the save is not torn. -/
theorem stored_together_iff (failures : SaveFailures) (transaction : Bool)
    (aggregate : AggregateRoot α) (store : AggregateStore α) :
    (AllOrNothing aggregate store (saveWithOutbox failures transaction aggregate store) ∧
      RetryStoresOnce aggregate store (saveWithOutbox failures transaction aggregate store)) ↔
      transaction = true ∨ ¬ Torn failures aggregate store := by
  rcases @saveWithOutbox_end α failures aggregate store
    transaction with success | failure
  · obtain ⟨resolved, ended⟩ := success
    obtain ⟨written, inserted⟩ := attempted_ok resolved
    have whole : ¬ Torn failures aggregate store := by
      intro torn
      obtain ⟨event, member, -⟩ := torn.2.2
      rcases inserted with done | none
      · exact torn.2.1 done
      · rw [none] at member
        cases member
    rw [ended]
    refine ⟨fun _ => Or.inr whole, fun _ => ⟨Or.inl ⟨?_, ?_⟩, ?_⟩⟩
    · rw [attempted_rows, if_pos written]
      exact OrderedMap.get?_set_self _ aggregate.id _
    · intro event member
      rw [attempted_outbox]
      rcases inserted with done | none
      · rw [if_pos ⟨written, done⟩]
        exact List.mem_append_right store.outbox member
      · rw [none] at member
        cases member
    · intro error _ rejected
      cases rejected
  · obtain ⟨error, -, ended⟩ := failure
    rw [ended]
    cases transaction with
    | true => exact ⟨fun _ => Or.inl rfl, fun _ => untouched_together error rfl rfl⟩
    | false =>
        have iff := @rejected_together_iff α failures aggregate
          store error
        refine iff.trans ⟨Or.inr, fun either => either.resolve_left Bool.false_ne_true⟩

end Saving

/-! ### An event that is lost -/

/-- A new user with one event. -/
def announced : AggregateRoot UserState :=
  newcomer.aggregate.changed [.addsEvent
    (User.event ⟨"l-1", "e-2", 1700000000000⟩ "u-1" "UserRegistered" .phone "0901234567")
    1700000000000]

/-- The connection is lost before the events are inserted. -/
def lostConnection : SaveFailures := ⟨none, some ⟨false, .error "Connection terminated"⟩⟩

/-- The user is stored without its event, and the next save is refused. -/
theorem event_lost :
    ¬ (AllOrNothing announced emptyStore
        (saveWithOutbox lostConnection false announced emptyStore) ∧
      RetryStoresOnce announced emptyStore
        (saveWithOutbox lostConnection false announced emptyStore)) := by
  intro together
  have once := together.2 (.error "Connection terminated") false rfl (by decide) (by decide)
    (User.event ⟨"l-1", "e-2", 1700000000000⟩ "u-1" "UserRegistered" .phone "0901234567")
    (by decide)
  exact absurd once (by decide)

end SelfService
