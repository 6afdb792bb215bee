/-
Saving aggregates under optimistic locking.

`save` guesses the version an aggregate was loaded at as one less than its
present version.  The guess is right for a new aggregate that was bumped at most
once, and for a stored one that was bumped exactly once.
-/

import SelfService.Data.OrderedMap
import SelfService.Domain.User

namespace SelfService

open Data AggregateRoot

/-! ### The store -/

/-- One call of `persist`, and whether it wrote the row. -/
structure PersistCall where
  aggregateId : String
  expectedVersion : Nat
  accepted : Bool
  deriving DecidableEq

structure AggregateRow (α : Type) where
  version : Nat
  state : α
  deriving DecidableEq

structure AggregateStore (α : Type) where
  rows : OrderedMap String (AggregateRow α)
  outbox : List DomainEvent
  published : List DomainEvent
  calls : List PersistCall

section Saving

variable {α : Type}

abbrev Stored (α β : Type) := Except Exn β × AggregateStore α

def versionMismatch (aggregateId : String) (expectedVersion actualVersion : Nat) : Exn :=
  .base .concurrency ("Concurrency conflict for Aggregate [" ++ aggregateId ++
      "]: expected version " ++ toString expectedVersion ++ ", but got " ++ toString actualVersion)
    "CONCURRENCY_ERROR"
    (.obj [("aggregateId", .str aggregateId), ("expectedVersion", .num expectedVersion),
      ("actualVersion", .num actualVersion)])

/-- Insert when nothing is expected, otherwise update where the version is the expected one. -/
def writes (store : AggregateStore α) (aggregateId : String) (expectedVersion : Nat) : Bool :=
  match store.rows.get? aggregateId with
  | none => expectedVersion = 0
  | some row => expectedVersion ≠ 0 && row.version = expectedVersion

def persist (aggregate : AggregateRoot α) (expectedVersion : Nat) (store : AggregateStore α) :
    Stored α Unit :=
  let accepted := writes store aggregate.id expectedVersion
  let noted := { store with
    calls := store.calls ++ [⟨aggregate.id, expectedVersion, accepted⟩] }
  if accepted then
    (.ok (), { noted with rows := store.rows.set aggregate.id ⟨aggregate.version, aggregate.state⟩ })
  else if expectedVersion = 0 then
    (.error (.error "duplicate key value violates unique constraint"), noted)
  else (.error (versionMismatch aggregate.id expectedVersion aggregate.version), noted)

/-! ### The two base repositories -/

/-- How the outbox insert and the event bus end. -/
structure Channel where
  addMany : Except Exn Unit
  publish : Except Exn Unit

structure SaveOptions where
  skipEventPublishing : Bool
  forceOutbox : Bool

/-- The first is the repository of the shared library, with its configuration; the second
is that of the core library, whose `supportsOutboxPattern` is false. -/
inductive Repository : Type
  | shared (useOutbox outboxRepository : Bool)
  | core

def expectedVersion (aggregate : AggregateRoot α) : Nat :=
  if aggregate.version > 0 then aggregate.version - 1 else 0

/-- Go on with a store only where the step before it resolved. -/
def thenStore {β γ : Type} (step : Stored α β) (next : AggregateStore α → Stored α γ) :
    Stored α γ :=
  match step with
  | (.ok _, store) => next store
  | (.error error, store) => (.error error, store)

def publishEvents (channel : Channel) (events : List DomainEvent) (store : AggregateStore α) :
    Stored α Unit :=
  (channel.publish, { store with published := store.published ++ events })

def addMany (channel : Channel) (events : List DomainEvent) (store : AggregateStore α) :
    Stored α Unit :=
  match channel.addMany with
  | .ok _ => (.ok (), { store with outbox := store.outbox ++ events })
  | .error error => (.error error, store)

def persistWithOutbox (channel : Channel) (aggregate : AggregateRoot α) (expectedVersion : Nat)
    (events : List DomainEvent) (store : AggregateStore α) : Stored α Unit :=
  thenStore (persist aggregate expectedVersion store) fun store =>
    if events = [] then (.ok (), store) else addMany channel events store

def persistAndPublish (options : SaveOptions) (channel : Channel) (aggregate : AggregateRoot α)
    (expectedVersion : Nat) (events : List DomainEvent) (store : AggregateStore α) :
    Stored α Unit :=
  thenStore (persist aggregate expectedVersion store) fun store =>
    if !options.skipEventPublishing && events ≠ [] then publishEvents channel events store
    else (.ok (), store)

def usesOutbox (options : SaveOptions) : Repository → Bool
  | .shared useOutbox outboxRepository => (useOutbox || options.forceOutbox) && outboxRepository
  | .core => false

def save (repository : Repository) (options : SaveOptions) (channel : Channel)
    (aggregate : AggregateRoot α) (store : AggregateStore α) : Stored α (AggregateRoot α) :=
  let events := aggregate.getDomainEvents
  let persisted :=
    if usesOutbox options repository then
      persistWithOutbox channel aggregate (expectedVersion aggregate) events store
    else persistAndPublish options channel aggregate (expectedVersion aggregate) events store
  thenStore persisted fun store => (.ok aggregate.clearDomainEvents, store)

/-! ### What a save leaves of the rows -/

variable {store : AggregateStore α} {aggregate : AggregateRoot α}

theorem thenStore_keeps {β γ δ : Type} (part : AggregateStore α → δ) {step : Stored α β}
    {next : AggregateStore α → Stored α γ} (kept : ∀ store, part (next store).2 = part store) :
    part (thenStore step next).2 = part step.2 := by
  obtain ⟨result, after⟩ := step
  cases result with
  | ok value => exact kept after
  | error error => rfl

theorem addMany_calls (channel : Channel) (events : List DomainEvent) :
    (addMany channel events store).2.calls = store.calls := by
  unfold addMany
  split <;> rfl

theorem addMany_rows (channel : Channel) (events : List DomainEvent) :
    (addMany channel events store).2.rows = store.rows := by
  unfold addMany
  split <;> rfl

/-- Whatever happens to the events, a save persists its aggregate once. -/
theorem save_calls (repository : Repository) (options : SaveOptions) (channel : Channel) :
    (save repository options channel aggregate store).2.calls =
      (persist aggregate (expectedVersion aggregate) store).2.calls := by
  unfold save
  rw [thenStore_keeps AggregateStore.calls fun _ => rfl]
  split
  · apply thenStore_keeps AggregateStore.calls
    intro store
    split
    · rfl
    · exact addMany_calls channel _
  · apply thenStore_keeps AggregateStore.calls
    intro store
    split <;> rfl

theorem save_rows (repository : Repository) (options : SaveOptions) (channel : Channel) :
    (save repository options channel aggregate store).2.rows =
      (persist aggregate (expectedVersion aggregate) store).2.rows := by
  unfold save
  rw [thenStore_keeps AggregateStore.rows fun _ => rfl]
  split
  · apply thenStore_keeps AggregateStore.rows
    intro store
    split
    · rfl
    · exact addMany_rows channel _
  · apply thenStore_keeps AggregateStore.rows
    intro store
    split <;> rfl

theorem persist_calls (expected : Nat) : (persist aggregate expected store).2.calls =
    store.calls ++ [⟨aggregate.id, expected, writes store aggregate.id expected⟩] := by
  unfold persist
  simp only
  split
  · rfl
  · split <;> rfl

theorem persist_rows (expected : Nat) : (persist aggregate expected store).2.rows =
    if writes store aggregate.id expected then
      store.rows.set aggregate.id ⟨aggregate.version, aggregate.state⟩
    else store.rows := by
  unfold persist
  simp only
  split
  · rfl
  · split <;> rfl

/-! ### Saves of others -/

/-- One save, by whichever process. -/
structure Saving (α : Type) where
  repository : Repository
  options : SaveOptions
  channel : Channel
  aggregate : AggregateRoot α

def Saving.run (saving : Saving α) (store : AggregateStore α) : AggregateStore α :=
  (save saving.repository saving.options saving.channel saving.aggregate store).2

def saveAll (savings : List (Saving α)) (store : AggregateStore α) : AggregateStore α :=
  savings.foldl (fun store saving => saving.run store) store

/-- Some call since then wrote the row of this aggregate. -/
def savedSince (since : AggregateStore α) (aggregateId : String) (store : AggregateStore α) : Bool :=
  (store.calls.drop since.calls.length).any fun call =>
    call.aggregateId = aggregateId && call.accepted

/-- The version of a row, with a missing row below all. -/
def rank (store : AggregateStore α) (aggregateId : String) : Nat :=
  match store.rows.get? aggregateId with
  | none => 0
  | some row => row.version + 1

/-- What was written has a higher version than what was there. -/
theorem rank_run (saving : Saving α) (store : AggregateStore α) (aggregateId : String) :
    rank store aggregateId ≤ rank (saving.run store) aggregateId ∧
      (rank (saving.run store) aggregateId = rank store aggregateId ↔
        ¬ (saving.aggregate.id = aggregateId ∧
          writes store saving.aggregate.id (expectedVersion saving.aggregate) = true)) := by
  unfold Saving.run rank
  rw [save_rows, persist_rows]
  by_cases written : writes store saving.aggregate.id (expectedVersion saving.aggregate) = true
  · rw [if_pos written]
    by_cases same : saving.aggregate.id = aggregateId
    · subst same
      rw [OrderedMap.get?_set_self]
      have accepted := written
      unfold writes at accepted
      have raised : expectedVersion saving.aggregate ≠ 0 →
          expectedVersion saving.aggregate + 1 = saving.aggregate.version := by
        unfold expectedVersion
        split <;> omega
      cases found : store.rows.get? saving.aggregate.id with
      | none => simp [written]
      | some row =>
          rw [found] at accepted
          simp only [Bool.and_eq_true, decide_eq_true_eq] at accepted
          have next := raised accepted.1
          simp only [written, and_self, not_true_eq_false, iff_false]
          omega
    · rw [OrderedMap.get?_set_of_ne _ _ same]
      simp [same]
  · rw [if_neg written]
    simp [written]

theorem calls_saveAll (savings : List (Saving α)) (store : AggregateStore α) :
    store.calls <+: (saveAll savings store).calls := by
  induction savings generalizing store with
  | nil => exact List.prefix_refl _
  | cons saving rest ih =>
      have first : store.calls <+: (saving.run store).calls := by
        rw [Saving.run, save_calls, persist_calls]
        exact List.prefix_append _ _
      exact first.trans (ih (saving.run store))

/-- The row of an aggregate has its old version exactly when no save wrote it. -/
theorem rank_saveAll (savings : List (Saving α)) (store : AggregateStore α) (aggregateId : String) :
    rank store aggregateId ≤ rank (saveAll savings store) aggregateId ∧
      (rank (saveAll savings store) aggregateId = rank store aggregateId ↔
        savedSince store aggregateId (saveAll savings store) = false) := by
  induction savings generalizing store with
  | nil => simp [saveAll, savedSince]
  | cons saving rest ih =>
      obtain ⟨low, same⟩ := rank_run saving store aggregateId
      obtain ⟨lowRest, sameRest⟩ := ih (saving.run store)
      have unfolded : saveAll (saving :: rest) store = saveAll rest (saving.run store) := rfl
      have calls : (saving.run store).calls = store.calls ++ [⟨saving.aggregate.id,
          expectedVersion saving.aggregate,
          writes store saving.aggregate.id (expectedVersion saving.aggregate)⟩] := by
        rw [Saving.run, save_calls, persist_calls]
      obtain ⟨others, grown⟩ := calls_saveAll rest (saving.run store)
      have since : savedSince store aggregateId (saveAll rest (saving.run store)) =
          ((decide (saving.aggregate.id = aggregateId) &&
            writes store saving.aggregate.id (expectedVersion saving.aggregate)) ||
              savedSince (saving.run store) aggregateId (saveAll rest (saving.run store))) := by
        unfold savedSince
        rw [← grown, List.drop_left, calls, List.append_assoc, List.drop_left, List.singleton_append,
          List.any_cons]
      rw [unfolded, since, Bool.or_eq_false_iff, ← sameRest]
      constructor
      · exact low.trans lowRest
      · constructor
        · intro equal
          have first : rank (saving.run store) aggregateId = rank store aggregateId := by omega
          constructor
          · have unwritten := same.mp first
            rw [Bool.eq_false_iff]
            intro both
            rw [Bool.and_eq_true, decide_eq_true_eq] at both
            exact unwritten both
          · omega
        · rintro ⟨unwritten, rest⟩
          have first : rank (saving.run store) aggregateId = rank store aggregateId := by
            rw [same]
            rintro ⟨mine, written⟩
            rw [written, Bool.and_true, decide_eq_false_iff_not] at unwritten
            exact unwritten mine
          omega

/-! ### Locking -/

/-- An aggregate as it came from the store, or as it was created. -/
structure Loaded (α : Type) where
  aggregate : AggregateRoot α
  store : AggregateStore α
  origin : match store.rows.get? aggregate.id with
    | none => aggregate.version = 0
    | some row => aggregate.version = row.version

def Loaded.isNew (loaded : Loaded α) : Bool := (loaded.store.rows.get? loaded.aggregate.id).isNone

/-- After these changes a save, by either repository and after any saves of others, expects
the loaded version and is accepted exactly when nobody else's save was. -/
def LocksLoadedVersion (loaded : Loaded α) (changes : List (Change α)) : Prop :=
  ∀ repository options channel (others : List (Saving α)),
    let store := saveAll others loaded.store
    ((⟨repository, options, channel, loaded.aggregate.changed changes⟩ : Saving α).run store).calls =
      store.calls ++ [⟨loaded.aggregate.id, loaded.aggregate.version,
        !savedSince loaded.store loaded.aggregate.id store⟩]

/-- The expected version is the loaded one exactly after one bump, or after none at zero. -/
theorem expectedVersion_changed (aggregate : AggregateRoot α) (changes : List (Change α)) :
    expectedVersion (aggregate.changed changes) = aggregate.version ↔
      bumps changes = 1 ∨ bumps changes = 0 ∧ aggregate.version = 0 := by
  unfold expectedVersion
  rw [version_changed]
  split <;> omega

/-- Locking works exactly for new aggregates bumped at most once and for stored ones, past
version zero, bumped exactly once. -/
theorem locks_loaded_version_iff (loaded : Loaded α) (changes : List (Change α)) :
    LocksLoadedVersion loaded changes ↔
      if loaded.isNew then bumps changes ≤ 1
      else bumps changes = 1 ∧ loaded.aggregate.version ≠ 0 := by
  have called (repository : Repository) (options : SaveOptions) (channel : Channel)
      (store : AggregateStore α) :
      ((⟨repository, options, channel, loaded.aggregate.changed changes⟩ : Saving α).run store).calls =
        store.calls ++ [⟨loaded.aggregate.id, expectedVersion (loaded.aggregate.changed changes),
          writes store loaded.aggregate.id (expectedVersion (loaded.aggregate.changed changes))⟩] := by
    rw [Saving.run, save_calls, persist_calls, id_changed]
  have origin := loaded.origin
  have expects := expectedVersion_changed loaded.aggregate changes
  have ranked (others : List (Saving α)) :=
    rank_saveAll others loaded.store loaded.aggregate.id
  unfold LocksLoadedVersion Loaded.isNew
  simp only [called, List.append_cancel_left_eq, List.cons.injEq, PersistCall.mk.injEq, true_and,
    and_true]
  constructor
  · intro locks
    -- Where nobody else saves, the save has to be accepted.
    obtain ⟨expected, accepted⟩ := locks .core ⟨false, false⟩ ⟨.ok (), .ok ()⟩ []
    have unsaved : savedSince loaded.store loaded.aggregate.id (saveAll [] loaded.store) = false := by
      simp [saveAll, savedSince]
    rw [unsaved, expected] at accepted
    have bumped := expects.mp expected
    unfold writes at accepted
    cases found : loaded.store.rows.get? loaded.aggregate.id with
    | none =>
        simp only [Option.isNone_none, if_true]
        omega
    | some row =>
        have same : saveAll [] loaded.store = loaded.store := rfl
        rw [same, found] at accepted
        simp only [Bool.not_false, Bool.and_eq_true, decide_eq_true_eq] at accepted
        simp only [Option.isNone_some, Bool.false_eq_true, if_false]
        omega
  · intro bumped repository options channel others
    obtain ⟨low, same⟩ := ranked others
    have expected : expectedVersion (loaded.aggregate.changed changes) = loaded.aggregate.version := by
      rw [expects]
      cases found : loaded.store.rows.get? loaded.aggregate.id with
      | none =>
          rw [found] at bumped origin
          simp only [Option.isNone_none, if_true] at bumped
          simp only at origin
          omega
      | some row =>
          rw [found] at bumped
          simp only [Option.isNone_some, Bool.false_eq_true, if_false] at bumped
          exact .inl bumped.1
    constructor
    · exact expected
    · rw [expected]
      rw [Bool.eq_iff_iff, Bool.not_eq_true', ← same]
      unfold rank at low ⊢
      unfold writes
      cases found : loaded.store.rows.get? loaded.aggregate.id with
      | none =>
          rw [found] at origin
          simp only at origin
          cases now : (saveAll others loaded.store).rows.get? loaded.aggregate.id with
          | none => simp [origin]
          | some row => simp [origin]
      | some row =>
          rw [found] at bumped origin low
          simp only [Option.isNone_some, Bool.false_eq_true, if_false] at bumped
          simp only at origin low
          cases now : (saveAll others loaded.store).rows.get? loaded.aggregate.id with
          | none =>
              rw [now] at low
              simp only at low
              omega
          | some current =>
              simp only [Bool.and_eq_true, decide_eq_true_eq]
              omega

/-! ### Users -/

def emptyStore : AggregateStore UserState := ⟨.empty, [], [], []⟩

/-- The user that registers with the phone below. -/
def newcomer : Loaded UserState where
  aggregate := User.unlinked "u-1" (some "0901234567") none none 1700000000000
  store := emptyStore
  origin := rfl

def registering : List (Change UserState) :=
  [.sets fun state => { state with providers := state.providers ++
      [User.link ⟨"l-1", "e-1", 1700000000000⟩ "u-1" .phone "0901234567" none] },
    .addsEvent (User.event ⟨"l-1", "e-1", 1700000000000⟩ "u-1" "ProviderLinked" .phone "0901234567")
      1700000000000,
    .addsEvent (User.event ⟨"l-1", "e-2", 1700000000000⟩ "u-1" "UserRegistered" .phone "0901234567")
      1700000000000]

/-- A freshly registered user is saved as an update of a row that is not there. -/
theorem registered_user_is_no_insert :
    User.register "u-1" ⟨"l-1", "e-1", 1700000000000⟩ ⟨"l-1", "e-2", 1700000000000⟩
        (some "0901234567") none none .phone "0901234567" none =
      .ok (newcomer.aggregate.changed registering) ∧
    ¬ LocksLoadedVersion newcomer registering := by
  constructor
  · rfl
  · intro locks
    have saved := locks .core ⟨false, false⟩ ⟨.ok (), .ok ()⟩ []
    revert saved
    decide

end Saving

end SelfService
