/-
The ids that two writers issue.

An id belongs to one row, to one insertion on its way or to one answer, as long as the numbers that
are drawn are unused.  The binding mock does not see the customers of the profile mock, though, nor
does a number that was drawn show before its row does.
-/

import Mathlib.Data.String.Basic
import SelfService.Binding.CustomerIds
import SelfService.Core.JsText
import SelfService.Data.Digits

namespace SelfService

open Data MockCustomerServiceClient

namespace CustomerStore

namespace SharedStore

/-! ### Ids of rows and calls -/

def pendingRow : StorePhase → Option StoreRow
  | .inserting row | .orphaned row => some row
  | _ => none

/-- The id of a customer that was inserted and not yet answered. -/
def writtenId : StorePhase → Option String
  | .inserted row => some row.customerId
  | _ => none

def isRejected : StorePhase → Bool
  | .rejected _ => true
  | _ => false

/-- Id and reference have one number. -/
def Formed (row : StoreRow) : Prop :=
  ∃ number, row.customerId = appId number ∧
    (row.customerRef = none ∨ row.customerRef = some (refId number))

def storedIds (table : List StoreRow) : List String := table.map StoreRow.customerId

/-- What a phase says of ids agrees with the table and the answers. -/
structure Fits (table : List StoreRow) (issued : List String) (phase : StorePhase) : Prop where
  pending : ∀ id, pendingId phase = some id → id ∉ storedIds table
  written : ∀ id, writtenId phase = some id → id ∈ storedIds table ∧ id ∉ issued
  forming : ∀ row, pendingRow phase = some row → Formed row
  accepted : isRejected phase = false

/-- Ids belong to one row, one insertion or one answer. -/
structure Numbered (table : List StoreRow) (calls : Nat → StorePhase) (issued : List String) :
    Prop where
  stored : (storedIds table).Nodup
  fits : ∀ tid, Fits table issued (calls tid)
  apart : ∀ tid other id, pendingId (calls tid) = some id → pendingId (calls other) = some id →
    tid = other
  writtenApart : ∀ tid other id, writtenId (calls tid) = some id →
    writtenId (calls other) = some id → tid = other
  kept : ∀ id ∈ issued, id ∈ storedIds table
  issued : issued.Nodup
  formed : ∀ row ∈ table, Formed row

section Ids

variable {table : List StoreRow} {calls : Nat → StorePhase} {issued : List String} {tid : Nat}

theorem update_cases (calls : Nat → StorePhase) (tid : Nat) (phase : StorePhase) (other : Nat) :
    other = tid ∧ Function.update calls tid phase other = phase ∨
      other ≠ tid ∧ Function.update calls tid phase other = calls other := by
  by_cases same : other = tid
  · subst same
    exact .inl ⟨rfl, Function.update_self ..⟩
  · exact .inr ⟨same, Function.update_of_ne same ..⟩

/-- What holds of the new phase and of the phases of all other calls holds of all. -/
theorem forall_update (holds : Nat → StorePhase → Prop) {phase : StorePhase}
    (here : holds tid phase) (elsewhere : ∀ other, other ≠ tid → holds other (calls other))
    (other : Nat) : holds other (Function.update calls tid phase other) := by
  rcases update_cases calls tid phase other with ⟨rfl, same⟩ | ⟨different, same⟩
  · rw [same]
    exact here
  · rw [same]
    exact elsewhere other different

theorem apart_update {idOf : StorePhase → Option String} {phase : StorePhase}
    (apart : ∀ tid other id, idOf (calls tid) = some id → idOf (calls other) = some id →
      tid = other)
    (alone : ∀ id, idOf phase = some id → ∀ other, other ≠ tid → idOf (calls other) ≠ some id) :
    ∀ one other id, idOf (Function.update calls tid phase one) = some id →
      idOf (Function.update calls tid phase other) = some id → one = other := by
  intro one other id first second
  rcases update_cases calls tid phase one with ⟨rfl, here⟩ | ⟨different, here⟩
  · rcases update_cases calls one phase other with ⟨rfl, there⟩ | ⟨different, there⟩
    · rfl
    · rw [here] at first
      rw [there] at second
      exact absurd second (alone id first other different)
  · rcases update_cases calls tid phase other with ⟨rfl, there⟩ | ⟨_, there⟩
    · rw [here] at first
      rw [there] at second
      exact absurd first (alone id second one different)
    · rw [here] at first
      rw [there] at second
      exact apart one other id first second

theorem Numbered.empty : Numbered [] (fun _ => .absent) [] where
  stored := List.nodup_nil
  fits := by
    intro tid
    constructor <;> simp [pendingId, writtenId, pendingRow, isRejected]
  apart := by simp [pendingId]
  writtenApart := by simp [writtenId]
  kept := by simp
  issued := List.nodup_nil
  formed := by simp

theorem pendingId_of_row {phase : StorePhase} {row : StoreRow}
    (pending : pendingRow phase = some row) : pendingId phase = some row.customerId := by
  cases phase with
  | inserting other => exact congrArg (Option.map StoreRow.customerId) pending
  | orphaned other => exact congrArg (Option.map StoreRow.customerId) pending
  | _ => cases pending

theorem Numbered.not_violates {s : SharedStore} (numbered : Numbered s.table s.calls issued)
    {row : StoreRow} (pending : pendingRow (s.calls tid) = some row) : s.violates row = false := by
  unfold violates
  rw [List.any_eq_false]
  intro other member clash
  rw [Bool.or_eq_true, Bool.and_eq_true, decide_eq_true_eq, decide_eq_true_eq] at clash
  have equal : other.customerId = row.customerId := by
    rcases clash with same | ⟨present, same⟩
    · exact same
    · obtain ⟨number, id, ref⟩ := (numbered.fits tid).forming row pending
      obtain ⟨count, otherId, otherRef⟩ := numbered.formed other member
      rw [same] at otherRef
      rcases ref with none | ref
      · simp [none] at present
      · rcases otherRef with none | otherRef
        · simp [none] at present
        · rw [ref, Option.some.injEq] at otherRef
          rw [id, otherId, refId_injective otherRef]
  have unstored := (numbered.fits tid).pending _ (pendingId_of_row pending)
  exact unstored (equal ▸ List.mem_map_of_mem member)

/-- A call goes on without an answer, and with no id but its own or an unused one. -/
theorem Numbered.settle (numbered : Numbered table calls issued) {phase : StorePhase}
    (fits : Fits table issued phase) (unwritten : writtenId phase = none)
    (alone : ∀ id, pendingId phase = some id →
      ∀ other, other ≠ tid → pendingId (calls other) ≠ some id) :
    Numbered table (Function.update calls tid phase) issued where
  stored := numbered.stored
  fits := forall_update (fun _ => Fits table issued) fits fun other _ =>
    numbered.fits other
  apart := apart_update numbered.apart alone
  writtenApart := by
    refine apart_update numbered.writtenApart ?_
    intro id here
    rw [unwritten] at here
    cases here
  kept := numbered.kept
  issued := numbered.issued
  formed := numbered.formed

def Idle (phase : StorePhase) : Prop :=
  pendingId phase = none ∧ pendingRow phase = none ∧ writtenId phase = none ∧
    isRejected phase = false

theorem fits_of_idle {phase : StorePhase} (idle : Idle phase) : Fits table issued phase := by
  obtain ⟨noId, noRow, unwritten, accepted⟩ := idle
  exact ⟨by simp [noId], by simp [unwritten], by simp [noRow], accepted⟩

theorem Numbered.idle (numbered : Numbered table calls issued) {phase : StorePhase}
    (idle : Idle phase) : Numbered table (Function.update calls tid phase) issued :=
  numbered.settle (fits_of_idle idle) idle.2.2.1 (by simp [idle.1])

theorem mem_storedIds_append {row : StoreRow} {id : String} :
    id ∈ storedIds (table ++ [row]) ↔ id ∈ storedIds table ∨ id = row.customerId := by
  simp [storedIds]

theorem Numbered.store (numbered : Numbered table calls issued) {row : StoreRow}
    (pending : pendingRow (calls tid) = some row) {phase : StorePhase}
    (after : phase = .inserted row ∨ phase = .absent) :
    Numbered (table ++ [row]) (Function.update calls tid phase) issued := by
  have waits := pendingId_of_row pending
  have unstored := (numbered.fits tid).pending _ waits
  have served : pendingId phase = none := by rcases after with rfl | rfl <;> rfl
  have own : ∀ id, writtenId phase = some id → id = row.customerId := by
    intro id here
    rcases after with rfl | rfl
    · exact (Option.some.inj here).symm
    · cases here
  constructor
  case stored =>
    simp only [storedIds, List.map_append, List.map_cons, List.map_nil]
    rw [List.nodup_append]
    refine ⟨numbered.stored, List.nodup_singleton _, ?_⟩
    intro id member other last same
    rw [List.mem_singleton.mp last] at same
    exact unstored (same ▸ member)
  case fits =>
    refine forall_update (fun _ => Fits (table ++ [row]) issued) ?_ ?_
    · refine ⟨by simp [served], ?_, ?_, ?_⟩
      · intro id here
        refine ⟨mem_storedIds_append.mpr (.inr (own id here)), ?_⟩
        intro answered
        exact unstored (own id here ▸ numbered.kept id answered)
      · rcases after with rfl | rfl <;> simp [pendingRow]
      · rcases after with rfl | rfl <;> rfl
    · intro other different
      have fits := numbered.fits other
      refine ⟨?_, ?_, fits.forming, fits.accepted⟩
      · intro id there member
        rcases mem_storedIds_append.mp member with old | new
        · exact fits.pending id there old
        · exact different (numbered.apart other tid id there (new ▸ waits))
      · intro id there
        exact ⟨mem_storedIds_append.mpr (.inl (fits.written id there).1), (fits.written id there).2⟩
  case apart => exact apart_update numbered.apart (by simp [served])
  case writtenApart =>
    refine apart_update numbered.writtenApart ?_
    intro id here other _ there
    exact unstored (own id here ▸ ((numbered.fits other).written id there).1)
  case kept => exact fun id member => mem_storedIds_append.mpr (.inl (numbered.kept id member))
  case issued => exact numbered.issued
  case formed =>
    intro other member
    rcases List.mem_append.mp member with old | new
    · exact numbered.formed other old
    · rw [List.mem_singleton.mp new]
      exact (numbered.fits tid).forming row pending

theorem Numbered.answer (numbered : Numbered table calls issued) {id : String}
    (here : writtenId (calls tid) = some id) :
    Numbered table (Function.update calls tid .ended) (issued ++ [id]) := by
  obtain ⟨stored, unissued⟩ := (numbered.fits tid).written id here
  constructor
  case stored => exact numbered.stored
  case fits =>
    refine forall_update (fun _ => Fits table (issued ++ [id])) ?_ ?_
    · exact fits_of_idle ⟨rfl, rfl, rfl, rfl⟩
    · intro other different
      have fits := numbered.fits other
      refine ⟨fits.pending, ?_, fits.forming, fits.accepted⟩
      intro found there
      refine ⟨(fits.written found there).1, ?_⟩
      intro member
      rcases List.mem_append.mp member with old | new
      · exact (fits.written found there).2 old
      · rw [List.mem_singleton.mp new] at there
        exact different (numbered.writtenApart other tid id there here)
  case apart => exact apart_update numbered.apart (by simp [pendingId])
  case writtenApart => exact apart_update numbered.writtenApart (by simp [writtenId])
  case kept =>
    intro found member
    rcases List.mem_append.mp member with old | new
    · exact numbered.kept found old
    · rw [List.mem_singleton.mp new]
      exact stored
  case issued =>
    rw [List.nodup_append]
    refine ⟨numbered.issued, List.nodup_singleton _, ?_⟩
    intro found member other last same
    rw [List.mem_singleton.mp last] at same
    exact unissued (same ▸ member)
  case formed => exact numbered.formed

theorem pendingRow_afterRestart {phase : StorePhase} {row : StoreRow}
    (pending : pendingRow (StorePhase.afterRestart phase) = some row) :
    pendingRow phase = some row := by
  cases phase <;> exact pending

theorem pendingId_afterRestart {phase : StorePhase} {id : String}
    (pending : pendingId (StorePhase.afterRestart phase) = some id) :
    pendingId phase = some id := by
  cases phase <;> first | exact pending | cases pending

theorem writtenId_afterRestart (phase : StorePhase) :
    writtenId (StorePhase.afterRestart phase) = none := by
  cases phase <;> rfl

/-- Of the calls of a process, a restart leaves the insertions that are on their way. -/
theorem Numbered.restart (numbered : Numbered table calls issued) :
    Numbered table (fun tid => StorePhase.afterRestart (calls tid)) issued where
  stored := numbered.stored
  fits := by
    intro tid
    have fits := numbered.fits tid
    refine ⟨fun id pending => fits.pending id (pendingId_afterRestart pending), ?_,
      fun row pending => fits.forming row (pendingRow_afterRestart pending), ?_⟩
    · simp [writtenId_afterRestart]
    · cases calls tid <;> rfl
  apart := fun tid other id here there =>
    numbered.apart tid other id (pendingId_afterRestart here) (pendingId_afterRestart there)
  writtenApart := by simp [writtenId_afterRestart]
  kept := numbered.kept
  issued := numbered.issued
  formed := numbered.formed

end Ids

/-! ### Ids along a run -/

section Steps

variable {s next : SharedStore} {tid : Nat}

/-- The ids of the table, the calls and the answers. -/
def NumberedStore (s : SharedStore) : Prop := Numbered s.table s.calls (issuedIds s.outcomes)

theorem issuedIds_append (outcomes : List Outcome) (outcome : Outcome) :
    issuedIds (outcomes ++ [outcome]) = issuedIds outcomes ++ issuedIds [outcome] :=
  List.filterMap_append ..

/-- An outcome that issues nothing. -/
theorem issuedIds_log {outcome : Outcome} (silent : issuedIds [outcome] = []) :
    issuedIds (s.log outcome).outcomes = issuedIds s.outcomes := by
  rw [log, issuedIds_append, silent, List.append_nil]

theorem formed_new (number : Nat) (phone : String) (profile : CreateCustomerRequest) :
    Formed (rowOf (newCustomer number phone profile)) :=
  ⟨number, rfl, .inr rfl⟩

theorem formed_profileRow (number : Nat) (params : ProfileRequest) :
    Formed (profileRow (appId number) params) :=
  ⟨number, rfl, .inl rfl⟩

theorem NumberedStore.draw (numbered : NumberedStore s) {number : Nat} {phase : StorePhase}
    (unused : s.Unused number) (drawn : pendingId phase = some (appId number))
    (unwritten : writtenId phase = none) (accepted : isRejected phase = false)
    (forming : ∀ row, pendingRow phase = some row → Formed row) :
    Numbered s.table (Function.update s.calls tid phase) (issuedIds s.outcomes) := by
  have unstored : appId number ∉ storedIds s.table := by
    intro member
    obtain ⟨row, member, same⟩ := List.mem_map.mp member
    exact unused.1 row member same
  refine Numbered.settle numbered ⟨?_, by simp [unwritten], forming, accepted⟩ unwritten ?_
  · intro id here
    rw [drawn, Option.some.injEq] at here
    exact here ▸ unstored
  · intro id here other _
    rw [drawn, Option.some.injEq] at here
    exact here ▸ unused.2 other

theorem NumberedStore.turn (numbered : NumberedStore s)
    (unused : s.DrawsUnused (.turn tid)) (stepped : s.turn tid = some next) :
    NumberedStore next := by
  unfold SharedStore.turn at stepped
  split at stepped
  case h_1 phone profile there =>
    split at stepped
    · rw [← Option.some.inj stepped]
      exact Numbered.idle numbered ⟨rfl, rfl, rfl, rfl⟩
    · rw [← Option.some.inj stepped]
      exact Numbered.idle numbered ⟨rfl, rfl, rfl, rfl⟩
  case h_2 message there =>
    rw [← Option.some.inj stepped]
    unfold NumberedStore
    rw [settle, issuedIds_log rfl]
    exact Numbered.idle numbered ⟨rfl, rfl, rfl, rfl⟩
  case h_3 params there =>
    rw [← Option.some.inj stepped]
    exact Numbered.idle numbered ⟨rfl, rfl, rfl, rfl⟩
  case h_4 phone profile rows there =>
    rw [← Option.some.inj stepped]
    exact Numbered.idle numbered ⟨rfl, rfl, rfl, rfl⟩
  case h_5 phone profile there =>
    rw [← Option.some.inj stepped]
    unfold proceed
    cases new : knows s.client (normalizePhone phone) with
    | true =>
        obtain ⟨error, refused⟩ := create_of_knows profile new
        rw [refused]
        dsimp only [NumberedStore, settle]
        rw [issuedIds_log rfl]
        exact Numbered.idle numbered ⟨rfl, rfl, rfl, rfl⟩
    | false =>
        obtain ⟨result, made⟩ := create_of_new profile new
        rw [made]
        refine numbered.draw (unused phone profile there new) rfl rfl rfl ?_
        intro row same
        rw [← Option.some.inj same]
        exact formed_new _ _ _
  case h_6 params number there =>
    rw [← Option.some.inj stepped]
    have held : pendingId (s.calls tid) = some (appId number) := by rw [there]; rfl
    refine Numbered.settle numbered ⟨?_, by simp [writtenId], ?_, rfl⟩ rfl ?_
    · intro id here
      rw [← Option.some.inj here]
      exact (numbered.fits tid).pending _ held
    · intro row same
      rw [← Option.some.inj same]
      exact formed_profileRow number params
    · intro id here other different twin
      rw [← Option.some.inj here] at twin
      exact different (numbered.apart other tid _ twin held)
  case h_7 row there =>
    rw [← Option.some.inj stepped]
    have here : writtenId (s.calls tid) = some row.customerId := by rw [there]; rfl
    have answered := Numbered.answer numbered here
    unfold NumberedStore
    rw [settle, log, issuedIds_append]
    exact answered
  case h_8 row there =>
    have accepted := (numbered.fits tid).accepted
    rw [there] at accepted
    cases accepted
  case h_9 => cases stepped

theorem NumberedStore.step (numbered : NumberedStore s) {action : StoreAction}
    (unused : s.DrawsUnused action) (stepped : s.step action = some next) :
    NumberedStore next := by
  cases action with
  | call tid call =>
      simp only [SharedStore.step] at stepped
      split at stepped
      · rw [← Option.some.inj stepped]
        exact Numbered.idle numbered ⟨rfl, rfl, rfl, rfl⟩
      · cases stepped
  | turn tid => exact numbered.turn unused stepped
  | select tid =>
      simp only [SharedStore.step] at stepped
      split at stepped
      case h_1 phone profile there =>
        rw [← Option.some.inj stepped]
        exact Numbered.idle numbered ⟨rfl, rfl, rfl, rfl⟩
      case h_2 params there =>
        rw [← Option.some.inj stepped]
        exact numbered.draw (unused params there) rfl rfl rfl (by simp [pendingRow])
      case h_3 => cases stepped
  | insert tid =>
      simp only [SharedStore.step] at stepped
      split at stepped
      case h_1 row there =>
        have pending : pendingRow (s.calls tid) = some row := by rw [there]; rfl
        rw [if_neg (ne_true_of_eq_false (Numbered.not_violates numbered pending))] at stepped
        rw [← Option.some.inj stepped]
        exact Numbered.store numbered pending (.inl rfl)
      case h_2 row there =>
        have pending : pendingRow (s.calls tid) = some row := by rw [there]; rfl
        rw [if_neg (ne_true_of_eq_false (Numbered.not_violates numbered pending))] at stepped
        rw [← Option.some.inj stepped]
        exact Numbered.store numbered pending (.inr rfl)
      case h_3 => cases stepped
  | lose tid =>
      simp only [SharedStore.step] at stepped
      split at stepped
      · rw [← Option.some.inj stepped]
        exact Numbered.idle numbered ⟨rfl, rfl, rfl, rfl⟩
      · cases stepped
  | restart =>
      rw [← Option.some.inj stepped]
      exact Numbered.restart numbered

/-! ### Phones along a run -/

/-- The customer of a row has a phone that `create` has seen. -/
def Listed (phones : List String) (row : StoreRow) : Prop :=
  ∀ customer, row.customer? = some customer → customer.phone ∈ phones

def rowsOf : StorePhase → List StoreRow
  | .selected _ _ rows => rows
  | .inserting row | .orphaned row => [row]
  | _ => []

/-- A phone that the client knows is that of an earlier `create`. -/
structure Remembered (s : SharedStore) : Prop where
  known : ∀ phone, s.client.createdCustomers.contains phone = true → phone ∈ s.phones
  listed : ∀ row ∈ s.table, Listed s.phones row
  held : ∀ tid, ∀ row ∈ rowsOf (s.calls tid), Listed s.phones row
  proper : ∀ outcome ∈ s.outcomes, Outcome.Proper outcome

theorem contains_of_set {map : OrderedMap String SeedCustomer} {key phone : String}
    {customer : SeedCustomer} (there : (map.set key customer).contains phone = true) :
    phone = key ∨ map.contains phone = true := by
  unfold OrderedMap.contains at *
  rw [OrderedMap.get?_set] at there
  split at there
  case isTrue same => exact .inl same.symm
  case isFalse => exact .inr there

theorem contains_of_foldl_load {phones : List String} (rows : List StoreRow)
    (listed : ∀ row ∈ rows, Listed phones row) (client : MockCustomerServiceClient)
    (known : ∀ phone, client.createdCustomers.contains phone = true → phone ∈ phones) :
    ∀ phone, (rows.foldl load client).createdCustomers.contains phone = true → phone ∈ phones := by
  induction rows generalizing client with
  | nil => exact known
  | cons row rest ih =>
      apply ih (fun other later => listed other (List.mem_cons_of_mem _ later))
      intro phone there
      unfold load at there
      split at there
      case h_1 => exact known phone there
      case h_2 customer found =>
        rcases contains_of_set there with same | old
        · exact same ▸ listed row List.mem_cons_self customer found
        · exact known phone old

theorem listed_new (phones : List String) (number : Nat) (phone : String)
    (profile : CreateCustomerRequest) (member : phone ∈ phones) :
    Listed phones (rowOf (newCustomer number phone profile)) := by
  intro customer found
  simp only [rowOf, StoreRow.customer?] at found
  split at found
  · cases found
  · rw [← Option.some.inj found]
    exact member

theorem listed_profileRow (phones : List String) (customerId : String) (params : ProfileRequest) :
    Listed phones (profileRow customerId params) := by
  intro customer found
  cases found

/-- A call goes on with rows whose phones are known, and nothing improper is logged. -/
theorem Remembered.settle (remembered : Remembered s) {phase : StorePhase}
    (held : ∀ row ∈ rowsOf phase, Listed s.phones row) : Remembered (s.settle tid phase) where
  known := remembered.known
  listed := remembered.listed
  held := forall_update (fun _ phase => ∀ row ∈ rowsOf phase, Listed s.phones row) held
    fun other _ => remembered.held other
  proper := remembered.proper

theorem Remembered.log (remembered : Remembered s) {outcome : Outcome}
    (proper : Outcome.Proper outcome) : Remembered (s.log outcome) where
  known := remembered.known
  listed := remembered.listed
  held := remembered.held
  proper := by
    intro other member
    rcases List.mem_append.mp member with old | new
    · exact remembered.proper other old
    · rw [List.mem_singleton.mp new]
      exact proper

theorem Remembered.proceed (remembered : Remembered s) (phone : String)
    (profile : CreateCustomerRequest) : Remembered (s.proceed tid phone profile) := by
  unfold SharedStore.proceed
  cases new : knows s.client (normalizePhone phone) with
  | true =>
      obtain ⟨error, refused⟩ := create_of_knows profile new
      rw [refused]
      refine Remembered.settle (remembered.log ?_) (by simp [rowsOf])
      -- what the client knows is a seed or was created before
      unfold knows at new
      rw [Bool.or_eq_true] at new
      change s.isKnown (normalizePhone phone) = true
      rw [isKnown, Bool.or_eq_true]
      exact new.imp_left fun there => List.contains_iff_mem.mpr (remembered.known _ there)
  | false =>
      obtain ⟨result, made⟩ := create_of_new profile new
      rw [made]
      dsimp only
      have grown : ∀ {row : StoreRow}, Listed s.phones row →
          Listed (s.phones ++ [normalizePhone phone]) row :=
        fun listed customer found => List.mem_append_left _ (listed customer found)
      have last : normalizePhone phone ∈ s.phones ++ [normalizePhone phone] :=
        List.mem_append_right _ (List.mem_singleton_self _)
      refine Remembered.settle (Remembered.mk ?_ ?_ ?_ ?_) ?_
      · intro other there
        rcases contains_of_set there with same | old
        · exact same ▸ last
        · exact List.mem_append_left _ (remembered.known other old)
      · exact fun row member => grown (remembered.listed row member)
      · exact fun other row member => grown (remembered.held other row member)
      · exact remembered.proper
      · intro row member
        rw [List.mem_singleton.mp member]
        exact listed_new _ _ _ _ last

theorem Remembered.turn (remembered : Remembered s) (numbered : NumberedStore s)
    (stepped : s.turn tid = some next) : Remembered next := by
  unfold SharedStore.turn at stepped
  split at stepped
  case h_1 phone profile there =>
    split at stepped
    · rw [← Option.some.inj stepped]
      exact remembered.settle (by simp [rowsOf])
    · rw [← Option.some.inj stepped]
      have begun : Remembered { s with hydrated := true } :=
        ⟨remembered.known, remembered.listed, remembered.held, remembered.proper⟩
      exact begun.settle (by simp [rowsOf])
  case h_2 message there =>
    rw [← Option.some.inj stepped]
    refine Remembered.settle (remembered.log ?_) (by simp [rowsOf])
    exact trivial
  case h_3 params there =>
    rw [← Option.some.inj stepped]
    exact remembered.settle (by simp [rowsOf])
  case h_4 phone profile rows there =>
    rw [← Option.some.inj stepped]
    have fetched : ∀ row ∈ rows, Listed s.phones row := by
      intro row member
      apply remembered.held tid
      rw [there]
      exact member
    have loaded : Remembered { s with client := rows.foldl load s.client } :=
      ⟨contains_of_foldl_load rows fetched s.client remembered.known, remembered.listed,
        remembered.held, remembered.proper⟩
    exact loaded.settle (by simp [rowsOf])
  case h_5 phone profile there =>
    rw [← Option.some.inj stepped]
    exact remembered.proceed phone profile
  case h_6 params number there =>
    rw [← Option.some.inj stepped]
    refine remembered.settle ?_
    intro row member
    rw [List.mem_singleton.mp member]
    exact listed_profileRow _ _ _
  case h_7 row there =>
    rw [← Option.some.inj stepped]
    refine Remembered.settle (remembered.log ?_) (by simp [rowsOf])
    exact trivial
  case h_8 row there =>
    have accepted := (numbered.fits tid).accepted
    rw [there] at accepted
    cases accepted
  case h_9 => cases stepped

theorem Remembered.step (remembered : Remembered s) (numbered : NumberedStore s)
    {action : StoreAction} (stepped : s.step action = some next) : Remembered next := by
  cases action with
  | call tid call =>
      simp only [SharedStore.step] at stepped
      split at stepped
      · rw [← Option.some.inj stepped]
        exact remembered.settle (by simp [rowsOf])
      · cases stepped
  | turn tid => exact remembered.turn numbered stepped
  | select tid =>
      simp only [SharedStore.step] at stepped
      split at stepped
      case h_1 phone profile there =>
        rw [← Option.some.inj stepped]
        exact remembered.settle remembered.listed
      case h_2 params there =>
        rw [← Option.some.inj stepped]
        exact remembered.settle (by simp [rowsOf])
      case h_3 => cases stepped
  | insert tid =>
      have kept : ∀ row, row ∈ rowsOf (s.calls tid) →
          Remembered { s with table := s.table ++ [row] } := by
        intro row waits
        refine ⟨remembered.known, ?_, remembered.held, remembered.proper⟩
        intro other member
        rcases List.mem_append.mp member with old | new
        · exact remembered.listed other old
        · rw [List.mem_singleton.mp new]
          exact remembered.held tid row waits
      simp only [SharedStore.step] at stepped
      split at stepped
      case h_1 row there =>
        split at stepped
        · rw [← Option.some.inj stepped]
          exact remembered.settle (by simp [rowsOf])
        · rw [← Option.some.inj stepped]
          exact (kept row (by simp [there, rowsOf])).settle (by simp [rowsOf])
      case h_2 row there =>
        split at stepped
        · rw [← Option.some.inj stepped]
          exact remembered.settle (by simp [rowsOf])
        · rw [← Option.some.inj stepped]
          exact (kept row (by simp [there, rowsOf])).settle (by simp [rowsOf])
      case h_3 => cases stepped
  | lose tid =>
      simp only [SharedStore.step] at stepped
      split at stepped
      · rw [← Option.some.inj stepped]
        exact remembered.settle (by simp [rowsOf])
      · cases stepped
  | restart =>
      rw [← Option.some.inj stepped]
      refine ⟨?_, remembered.listed, ?_, remembered.proper⟩
      · intro phone there
        cases there
      · intro tid row member
        apply remembered.held tid
        cases phase : s.calls tid <;> simp [phase, StorePhase.afterRestart, rowsOf] at member ⊢
        · exact member
        · exact member

end Steps

/-! ### The promise -/

theorem CarefulRun.sound {s : SharedStore} (run : CarefulRun s) :
    NumberedStore s ∧ Remembered s := by
  induction run with
  | fresh =>
      refine ⟨Numbered.empty, ?_, ?_, ?_, ?_⟩
      · intro phone there
        cases there
      · exact fun row member => absurd member List.not_mem_nil
      · exact fun tid row member => absurd member List.not_mem_nil
      · exact fun outcome member => absurd member List.not_mem_nil
  | step run action unused stepped ih =>
      exact ⟨ih.1.step unused stepped, ih.2.step ih.1 stepped⟩

/-- How many steps of its own a call has before it at most. -/
def stage : StorePhase → Nat
  | .arrived _ => 6
  | .hydrating _ _ => 5
  | .selected _ _ _ | .numbering _ => 4
  | .passed _ _ | .numbered _ _ => 3
  | .inserting _ => 2
  | .inserted _ | .rejected _ => 1
  | .absent | .orphaned _ | .ended => 0

theorem settle_calls (s : SharedStore) (tid : Nat) (phase : StorePhase) :
    (s.settle tid phase).calls tid = phase :=
  Function.update_self ..

theorem stage_proceed (s : SharedStore) (tid : Nat) (phone : String)
    (profile : CreateCustomerRequest) : stage ((s.proceed tid phone profile).calls tid) < 3 := by
  unfold proceed
  split
  · rw [settle_calls]
    decide
  · rw [settle_calls]
    exact Nat.lt_succ_self 2

/-- A call under way has a step that brings it nearer to its end. -/
theorem goes_on (s : SharedStore) (tid : Nat) (underWay : 0 < stage (s.calls tid)) :
    ∃ action next, s.step action = some next ∧ stage (next.calls tid) < stage (s.calls tid) := by
  cases phase : s.calls tid with
  | absent => simp [phase, stage] at underWay
  | orphaned row => simp [phase, stage] at underWay
  | ended => simp [phase, stage] at underWay
  | arrived call =>
      cases call with
      | create phone profile =>
          cases warm : s.hydrated with
          | true =>
              refine ⟨.turn tid, s.settle tid (.passed phone profile), ?_, ?_⟩
              · simp [step, turn, phase, warm]
              · simp [settle_calls, stage]
          | false =>
              refine ⟨.turn tid,
                { s with hydrated := true }.settle tid (.hydrating phone profile), ?_, ?_⟩
              · simp [step, turn, phase, warm]
              · simp [settle_calls, stage]
      | createCustomer params =>
          cases params with
          | error message =>
              refine ⟨.turn tid,
                (s.log (.invalid (.error
                ("create-customer mock invalid params: " ++ message)))).settle tid .ended, ?_, ?_⟩
              · simp only [step, turn, phase]
              · simp [settle_calls, stage]
          | ok params =>
              refine ⟨.turn tid, s.settle tid (.numbering params), ?_, ?_⟩
              · simp only [step, turn, phase]
              · simp [settle_calls, stage]
  | hydrating phone profile =>
      refine ⟨.select tid, s.settle tid (.selected phone profile s.table), ?_, ?_⟩
      · simp only [step, phase]
      · simp [settle_calls, stage]
  | selected phone profile rows =>
      refine ⟨.turn tid,
        { s with client := rows.foldl load s.client }.settle tid (.passed phone profile), ?_, ?_⟩
      · simp only [step, turn, phase]
      · simp [settle_calls, stage]
  | passed phone profile =>
      refine ⟨.turn tid,
        s.proceed tid phone profile, ?_, ?_⟩
      · simp only [step, turn, phase]
      · exact stage_proceed s tid phone profile
  | numbering params =>
      refine ⟨.select tid, s.settle tid (.numbered params (nextNumber s.table)), ?_, ?_⟩
      · simp only [step, phase]
      · simp [settle_calls, stage]
  | numbered params number =>
      refine ⟨.turn tid,
        s.settle tid (.inserting (profileRow (appId number) params)), ?_, ?_⟩
      · simp only [step, turn, phase]
      · simp [settle_calls, stage]
  | inserting row =>
      cases clash : s.violates row with
      | true =>
          refine ⟨.insert tid, s.settle tid (.rejected row), ?_, ?_⟩
          · simp [step, phase, clash]
          · simp [settle_calls, stage]
      | false =>
          refine ⟨.insert tid, { s with table := s.table ++ [row] }.settle tid (.inserted row),
            ?_, ?_⟩
          · simp [step, phase, clash]
          · simp [settle_calls, stage]
  | inserted row =>
      refine ⟨.turn tid,
        (s.log (.issued row.customerId)).settle tid .ended, ?_, ?_⟩
      · simp only [step, turn, phase]
      · simp [settle_calls, stage]
  | rejected row =>
      refine ⟨.turn tid,
        (s.log (.violated row.customerId)).settle tid .ended, ?_, ?_⟩
      · simp only [step, turn, phase]
      · simp [settle_calls, stage]

/-- If only unused numbers are drawn, the ids that were issued are distinct, no phone was refused
but a known one, and every call under way goes on to its end with an insertion that is accepted. -/
theorem ids_distinct {s : SharedStore} (run : CarefulRun s) :
    s.Promised ∧ (∀ tid row, s.calls tid = .inserting row → s.violates row = false) ∧
    ∀ tid, 0 < stage (s.calls tid) → ∃ action next, s.step action = some next ∧
      stage (next.calls tid) < stage (s.calls tid) := by
  obtain ⟨numbered, remembered⟩ := run.sound
  refine ⟨⟨numbered.issued, remembered.proper⟩, ?_, s.goes_on⟩
  intro tid row there
  have pending : pendingRow (s.calls tid) = some row := by rw [there]; rfl
  exact Numbered.not_violates numbered pending

/-! ### The greatest id -/

/-- A number of at most six digits is written with six. -/
theorem length_padded {number : Nat} (short : number < 1000000) :
    (padded number).toList.length = 6 := by
  have digits : number.repr.length ≤ 6 := (Nat.length_repr_le_iff (by decide)).mpr short
  have text : (Nat.toDigits 10 number).length = number.repr.length := by
    rw [← Nat.toList_repr, String.length_toList]
  simp [padded, text]
  omega

theorem digit_of_padded (number : Nat) : ∀ symbol ∈ (padded number).toList,
    symbol.isDigit = true := by
  intro symbol member
  simp only [padded, String.toList_append, String.toList_ofList, List.mem_append] at member
  rcases member with zero | digit
  · rw [List.eq_of_mem_replicate zero]
    rfl
  · exact NumberTexts.digit_of_repr digit

theorem number_padded (number : Nat) : Digits.number (padded number).toList = number := by
  simp [Digits.number, padded, Nat.ofDigitChars_append, Nat.ofDigitChars_replicate_zero,
    Nat.ofDigitChars_ten_toDigits]

/-- Ids of six digits stand in the order of their numbers. -/
theorem appId_lt {smaller greater : Nat} (less : smaller < greater) (short : greater < 1000000) :
    appId smaller < appId greater := by
  rw [String.lt_iff_toList_lt, appId, appId, String.toList_append, String.toList_append]
  apply List.append_left_lt
  apply Digits.lt_of_number_lt
  · rw [length_padded short, length_padded (by omega)]
  · exact digit_of_padded smaller
  · exact digit_of_padded greater
  · rw [number_padded, number_padded]
    exact less

theorem numberOfId_appId {number : Nat} (short : number < 1000000) :
    numberOfId (appId number) = some number := by
  have symbols : (appId number).toList = "APP-".toList ++ (padded number).toList :=
    String.toList_append ..
  have rest : (appId number).toList.drop 4 = (padded number).toList := by
    rw [symbols]
    rfl
  have all : (padded number).toList.all Char.isDigit = true :=
    List.all_eq_true.mpr (digit_of_padded number)
  have starts : "APP-".toList <+: (appId number).toList := by
    rw [symbols]
    exact List.prefix_append _ _
  have value : Nat.ofDigitChars 10 (padded number).toList 0 = number := number_padded number
  simp only [numberOfId, rest, starts, length_padded short, all, and_self, if_true, value]

def SixDigits (table : List StoreRow) : Prop :=
  ∀ row ∈ table, ∃ number < 1000000, row.customerId = appId number

/-- Among ids of six digits the greatest text has the greatest number. -/
theorem greatestId_sixDigits {table : List StoreRow} (six : SixDigits table) :
    (table = [] ∧ greatestId table = none) ∨
    ∃ most < 1000000, greatestId table = some (appId most) ∧
      ∀ row ∈ table, ∃ number ≤ most, row.customerId = appId number := by
  induction table with
  | nil => exact .inl ⟨rfl, rfl⟩
  | cons row rest ih =>
      obtain ⟨number, short, id⟩ := six row List.mem_cons_self
      refine .inr ?_
      rcases ih fun other later => six other (List.mem_cons_of_mem _ later) with
        ⟨rfl, none⟩ | ⟨most, bound, greatest, all⟩
      · refine ⟨number, short, ?_, ?_⟩
        · rw [greatestId, none, id]
        · intro other member
          rw [List.mem_singleton.mp member]
          exact ⟨number, Nat.le_refl _, id⟩
      · by_cases less : most < number
        · refine ⟨number, short, ?_, ?_⟩
          · rw [greatestId, greatest, id]
            exact if_pos (appId_lt less short)
          · intro other member
            rcases List.mem_cons.mp member with rfl | later
            · exact ⟨number, Nat.le_refl _, id⟩
            · obtain ⟨count, below, same⟩ := all other later
              exact ⟨count, by omega, same⟩
        · refine ⟨most, bound, ?_, ?_⟩
          · rw [greatestId, greatest, id]
            refine if_neg ?_
            intro before
            rcases Nat.lt_or_eq_of_le (Nat.le_of_not_lt less) with fewer | equal
            · exact absurd before (lt_asymm (appId_lt fewer bound))
            · rw [equal] at before
              exact lt_irrefl _ before
          · intro other member
            rcases List.mem_cons.mp member with rfl | later
            · exact ⟨number, Nat.le_of_not_lt less, id⟩
            · exact all other later

/-- The profile mock draws an unused number as long as ids have six digits and no insertion is on
its way. -/
theorem nextNumber_unused {s : SharedStore} (six : SixDigits s.table)
    (quiet : ∀ tid, pendingId (s.calls tid) = none) : s.Unused (nextNumber s.table) := by
  refine ⟨?_, fun tid pending => by rw [quiet tid] at pending; cases pending⟩
  rcases greatestId_sixDigits six with ⟨empty, _⟩ | ⟨most, bound, greatest, all⟩
  · rw [empty]
    exact fun row member => absurd member List.not_mem_nil
  · have next : nextNumber s.table = most + 1 := by
      simp only [nextNumber, greatest, Option.bind_some, numberOfId_appId bound, Option.getD_some]
    intro row member same
    obtain ⟨number, below, id⟩ := all row member
    have equal := appId_injective (id.symm.trans same)
    omega

/-- The binding mock does so as long as its counter has seen every number. -/
theorem counter_unused {s : SharedStore}
    (seen : ∀ row ∈ s.table, ∃ number ≤ s.client.createdCustomerCounter,
      row.customerId = appId number)
    (ahead : ∀ tid id, pendingId (s.calls tid) = some id →
      ∃ number ≤ s.client.createdCustomerCounter, id = appId number) :
    s.Unused (s.client.createdCustomerCounter + 1) := by
  constructor
  · intro row member same
    obtain ⟨number, below, id⟩ := seen row member
    have equal := appId_injective (id.symm.trans same)
    omega
  · intro tid pending
    obtain ⟨number, below, id⟩ := ahead tid _ pending
    have equal := appId_injective id
    omega

/-! ### Two customers -/

def play (actions : List StoreAction) : Option SharedStore := actions.foldlM step .fresh

/-- A `create-customer` from its arrival to its answer. -/
def createsByProfile (tid : Nat) : List StoreAction :=
  [.call tid (.createCustomer (.ok ⟨"An", some "0900000001"⟩)), .turn tid, .select tid, .turn tid,
    .insert tid, .turn tid]

/-- A `create` as the first call of its process. -/
def createsByBinding (tid : Nat) : List StoreAction :=
  [.call tid (.create "0900000002" ⟨"Bình", .sinhHoat, ⟨"1", "A", "B", "C"⟩, none⟩), .turn tid,
    .select tid, .turn tid, .turn tid, .insert tid, .turn tid]

/-- Nothing waits to be inserted, and no row has the id. -/
theorem unused_of_quiet {s : SharedStore} {number : Nat}
    (unstored : ∀ row ∈ s.table, row.customerId ≠ appId number)
    (quiet : ∀ tid, pendingId (s.calls tid) = none) : s.Unused number :=
  ⟨unstored, fun tid pending => by rw [quiet tid] at pending; cases pending⟩

theorem ids_distinct_both :
    ∃ s, play (createsByBinding 0 ++ createsByProfile 1) = some s ∧ CarefulRun s ∧
      issuedIds s.outcomes = ["APP-000001", "APP-000002"] ∧ s.Promised := by
  have arrived := CarefulRun.fresh.step (.call 0 (.create "0900000002"
    ⟨"Bình", .sinhHoat, ⟨"1", "A", "B", "C"⟩, none⟩)) trivial rfl
  have hydrating := arrived.step (.turn 0) (by intro _ _ there; cases there) rfl
  have selected := hydrating.step (.select 0) (by intro _ there; cases there) rfl
  have passed := selected.step (.turn 0) (by intro _ _ there; cases there) rfl
  have inserting := passed.step (.turn 0) (by
    intro _ _ _ _
    refine unused_of_quiet (fun row member => absurd member List.not_mem_nil) ?_
    intro tid
    match tid with
    | 0 => rfl
    | _ + 1 => rfl) rfl
  have inserted := inserting.step (.insert 0) trivial rfl
  have issued := inserted.step (.turn 0) (by intro _ _ there; cases there) rfl
  have asked := issued.step (.call 1 (.createCustomer (.ok ⟨"An", some "0900000001"⟩))) trivial rfl
  have numbering := asked.step (.turn 1) (by intro _ _ there; cases there) rfl
  have numbered := numbering.step (.select 1) (by
    intro _ _
    refine unused_of_quiet ?_ ?_
    · intro row member
      rw [List.mem_singleton.mp member]
      have apart : appId 1 ≠ appId 2 := by decide
      exact apart
    · intro tid
      match tid with
      | 0 => rfl
      | 1 => rfl
      | _ + 2 => rfl) rfl
  have sent := numbered.step (.turn 1) (by intro _ _ there; cases there) rfl
  have stored := sent.step (.insert 1) trivial rfl
  have answered := stored.step (.turn 1) (by intro _ _ there; cases there) rfl
  exact ⟨_, rfl, answered, rfl, (ids_distinct answered).1⟩

/-- The binding mock does not count the customers of the profile mock, and draws their number
again. -/
theorem number_drawn_again :
    ¬ ∀ actions s, play actions = some s → s.Promised := by
  intro promised
  have ended : (play (createsByProfile 0 ++ createsByBinding 1)).map SharedStore.outcomes =
      some [.issued "APP-000001", .violated "APP-000001"] := rfl
  rw [Option.map_eq_some_iff] at ended
  obtain ⟨s, played, outcomes⟩ := ended
  have proper := (promised _ s played).2 (.violated "APP-000001") (by simp [outcomes])
  exact proper

end SharedStore

end CustomerStore

end SelfService
