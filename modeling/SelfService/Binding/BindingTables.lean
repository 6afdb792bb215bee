/-
What the rows of the binding table tell about the past.

A row never goes away and never changes hands, and a verified row stays
verified.  Whatever a row holds that it did not hold at the start was left there
by a write that took effect.
-/

import SelfService.Binding.BindingSafety

namespace SelfService

open Data EventLoop

/-! ### One write -/

/-- The row a request wrote, and with what, if the write took effect. -/
def BindingRequest.written : (request : BindingRequest) → request.Answer →
    Option (String × VerifiedValues)
  | .updateBinding id values, reply => if reply.applied then some (id, values) else none
  | .insertBinding id _ _ values, reply => if reply.applied then some (id, values) else none
  | _, _ => none

/-- The row a request named, with the user and the reference it belongs to. -/
def BindingRequest.owner : (request : BindingRequest) → request.Answer →
    Option (String × String × String)
  | .selectBinding userId customerRef, .ok (some id) => some (id, userId, customerRef)
  | .insertBinding id userId customerRef _, reply =>
      if reply.applied then some (id, userId, customerRef) else none
  | _, _ => none

/-- How a request may change the rows. -/
inductive RowsMove : Bindings → Bindings → (request : BindingRequest) → request.Answer → Prop
  | kept (bindings : Bindings) (request : BindingRequest) (answer : request.Answer)
      (silent : request.written answer = none) : RowsMove bindings bindings request answer
  | missed (bindings : Bindings) (id : String) (values : VerifiedValues) (reply : Reply Unit)
      (missing : bindings.get? id = none) :
      RowsMove bindings bindings (.updateBinding id values) reply
  | updated (bindings : Bindings) (id : String) (values : VerifiedValues) (reply : Reply Unit)
      (row : CustomerBinding) (applied : reply.applied = true)
      (found : bindings.get? id = some row) :
      RowsMove bindings (bindings.set id (values.update row)) (.updateBinding id values) reply
  | inserted (bindings : Bindings) (id userId customerRef : String) (values : VerifiedValues)
      (reply : Reply Unit) (applied : reply.applied = true) (fresh : bindings.get? id = none) :
      RowsMove bindings (bindings.set id (values.row userId customerRef))
        (.insertBinding id userId customerRef values) reply

theorem Reply.commit_eq_some {α : Type} {reply : Reply Unit} {before after : α}
    {effect : Option α} (committed : reply.commit before effect = some after) :
    reply.applied = true ∧ effect = some after ∨ reply.applied = false ∧ after = before := by
  cases reply with
  | ok done => exact Or.inl ⟨rfl, committed⟩
  | failed applied reason =>
      cases applied with
      | true => exact Or.inl ⟨rfl, committed⟩
      | false => exact Or.inr ⟨rfl, (Option.some.inj committed).symm⟩

theorem Bindings.write_eq_some {bindings after : Bindings} {id : String} {row : CustomerBinding}
    (written : bindings.write id row = some after) : after = bindings.set id row :=
  (Option.some.inj (Option.ite_none_right_eq_some.mp written).2).symm

section Moves

variable {client : CustomerServiceClient} {state after : BindingState client}
  {request : BindingRequest} {answer : request.Answer}

theorem rowsMove_of_update {id : String} {values : VerifiedValues} {reply : Reply Unit}
    (performed : performBinding state (.updateBinding id values) reply = some after) :
    RowsMove state.bindings after.bindings (.updateBinding id values) reply := by
  obtain ⟨bindings, committed, rfl⟩ := Option.map_eq_some_iff.mp performed
  rcases Reply.commit_eq_some committed with ⟨applied, updated⟩ | ⟨failed, rfl⟩
  · unfold Bindings.update at updated
    cases found : state.bindings.get? id with
    | none =>
        simp only [found, Option.some.injEq] at updated
        rw [← updated]
        exact .missed _ _ _ _ found
    | some row =>
        simp only [found] at updated
        rw [Bindings.write_eq_some updated]
        exact .updated _ _ _ _ row applied found
  · exact .kept _ _ _ (if_neg (by simp [failed]))

theorem rowsMove_of_insert {id userId customerRef : String} {values : VerifiedValues}
    {reply : Reply Unit}
    (performed : performBinding state (.insertBinding id userId customerRef values) reply =
      some after) :
    RowsMove state.bindings after.bindings (.insertBinding id userId customerRef values)
      reply := by
  obtain ⟨bindings, committed, rfl⟩ := Option.map_eq_some_iff.mp performed
  rcases Reply.commit_eq_some committed with ⟨applied, inserted⟩ | ⟨failed, rfl⟩
  · unfold Bindings.insert at inserted
    split at inserted
    · cases inserted
    · rename_i fresh
      rw [Bindings.write_eq_some inserted]
      exact .inserted _ _ _ _ _ _ applied (by simpa [OrderedMap.contains] using fresh)
  · exact .kept _ _ _ (if_neg (by simp [failed]))

theorem rowsMove_of_perform (performed : performBinding state request answer = some after) :
    RowsMove state.bindings after.bindings request answer := by
  have same (kept : after.bindings = state.bindings) (silent : request.written answer = none) :
      RowsMove state.bindings after.bindings request answer := by
    rw [kept]
    exact .kept _ _ _ silent
  cases request with
  | updateBinding id values => exact rowsMove_of_update performed
  | insertBinding id userId customerRef values => exact rowsMove_of_insert performed
  | selectPhone userId =>
      cases performed
      exact same rfl rfl
  | selectIdentity userId =>
      cases performed
      exact same rfl rfl
  | selectBinding userId customerRef =>
      apply same _ rfl
      cases answer with
      | failed applied reason =>
          cases performed
          rfl
      | ok found =>
          cases found with
          | none =>
              simp only [performBinding] at performed
              split at performed
              · cases performed
              · cases performed
                rfl
          | some id =>
              simp only [performBinding] at performed
              split at performed
              · cases performed
                rfl
              · cases performed
  | selectVerified userId =>
      apply same _ rfl
      cases answer with
      | failed applied reason =>
          cases performed
          rfl
      | ok found =>
          cases found with
          | none =>
              simp only [performBinding] at performed
              split at performed
              · cases performed
              · cases performed
                rfl
          | some row =>
              simp only [performBinding] at performed
              split at performed
              · cases performed
                rfl
              · cases performed
  | insertAudit entry =>
      obtain ⟨audit, -, rfl⟩ := Option.map_eq_some_iff.mp performed
      exact same rfl rfl
  | client request =>
      obtain ⟨customers, -, rfl⟩ := Option.map_eq_some_iff.mp performed
      exact same rfl rfl

end Moves

/-- The row is still there, still of the same user and reference, and no less verified. -/
def Persists (id : String) (row : CustomerBinding) (later : Bindings) : Prop :=
  ∃ now, later.get? id = some now ∧ now.userId = row.userId ∧
    now.customerRef = row.customerRef ∧ (row.status = .verified → now.status = .verified)

theorem RowsMove.persists {before after : Bindings} {request : BindingRequest}
    {answer : request.Answer} (move : RowsMove before after request answer) {id : String}
    {row : CustomerBinding} (found : before.get? id = some row) : Persists id row after := by
  cases move with
  | kept _ _ silent => exact ⟨row, found, rfl, rfl, fun verified => verified⟩
  | missed other values reply missing => exact ⟨row, found, rfl, rfl, fun verified => verified⟩
  | updated other values reply old applied there =>
      by_cases same : other = id
      · subst same
        rw [there, Option.some.injEq] at found
        subst found
        exact ⟨_, OrderedMap.get?_set_self .., rfl, rfl, fun _ => rfl⟩
      · refine ⟨row, ?_, rfl, rfl, fun verified => verified⟩
        rw [OrderedMap.get?_set_of_ne _ _ same, found]
  | inserted other userId customerRef values reply applied fresh =>
      have same : other ≠ id := by
        rintro rfl
        rw [fresh] at found
        cases found
      refine ⟨row, ?_, rfl, rfl, fun verified => verified⟩
      rw [OrderedMap.get?_set_of_ne _ _ same, found]

/-- A row is as it was, or it was just written. -/
theorem RowsMove.kept_or_written {before after : Bindings} {request : BindingRequest}
    {answer : request.Answer} (move : RowsMove before after request answer) {id : String}
    {row : CustomerBinding} (found : after.get? id = some row) :
    before.get? id = some row ∨ ∃ values, request.written answer = some (id, values) ∧
      row.status = .verified ∧ row.customerId = values.encCustomerId := by
  cases move with
  | kept _ _ silent => exact Or.inl found
  | missed other values reply missing => exact Or.inl found
  | updated other values reply old applied there =>
      rw [OrderedMap.get?_set] at found
      split at found
      · rename_i same
        subst same
        cases found
        exact Or.inr ⟨values, if_pos applied, rfl, rfl⟩
      · exact Or.inl found
  | inserted other userId customerRef values reply applied fresh =>
      rw [OrderedMap.get?_set] at found
      split at found
      · rename_i same
        subst same
        cases found
        exact Or.inr ⟨values, if_pos applied, rfl, rfl⟩
      · exact Or.inl found

theorem RowsMove.verified_of_written {before after : Bindings} {request : BindingRequest}
    {answer : request.Answer} (move : RowsMove before after request answer) {id : String}
    {values : VerifiedValues} (wrote : request.written answer = some (id, values))
    {row : CustomerBinding} (found : after.get? id = some row) : row.status = .verified := by
  cases move with
  | kept _ _ silent =>
      rw [silent] at wrote
      cases wrote
  | missed other written reply missing =>
      obtain ⟨-, same⟩ := Option.ite_none_right_eq_some.mp wrote
      cases same
      rw [missing] at found
      cases found
  | updated other written reply old applied there =>
      obtain ⟨-, same⟩ := Option.ite_none_right_eq_some.mp wrote
      cases same
      rw [OrderedMap.get?_set_self] at found
      cases found
      rfl
  | inserted other userId customerRef written reply applied fresh =>
      obtain ⟨-, same⟩ := Option.ite_none_right_eq_some.mp wrote
      cases same
      rw [OrderedMap.get?_set_self] at found
      cases found
      rfl

/-! ### Whole runs -/

section Runs

variable {client : CustomerServiceClient}

/-- The row an entry wrote, and with what. -/
def writtenBy (entry : BindingTraceEntry client) : Option (String × VerifiedValues) :=
  match entry.event with
  | .answered (.inr request) answer => request.written answer
  | _ => none

/-- The row an entry named, with the user and the reference it belongs to. -/
def ownerIn (entry : BindingTraceEntry client) : Option (String × String × String) :=
  match entry.event with
  | .answered (.inr request) answer => request.owner answer
  | _ => none

/-- The entry left the row as it is, as far as its status and its customer go. -/
def Left (entry : BindingTraceEntry client) (id : String) (row : CustomerBinding) : Prop :=
  ∃ values, writtenBy entry = some (id, values) ∧ row.status = .verified ∧
    row.customerId = values.encCustomerId

/-- The row was there at the start, or some entry left it. -/
def Known (start : Bindings) (trace : BindingTrace client) (id : String)
    (row : CustomerBinding) : Prop :=
  start.get? id = some row ∨ ∃ entry ∈ trace, Left entry id row

/-- The guard and `GET /auth/me` read a row that was verified by then; they find none only
where no row of the user was. -/
def ReadLaw (start : Bindings) (before : BindingTrace client) (entry : BindingTraceEntry client) :
    Prop :=
  match entry.event with
  | .answered (.inr (.selectVerified userId)) (.ok (some row)) =>
      row.userId = userId ∧ row.status = .verified ∧ ∃ id, Known start before id row
  | .answered (.inr (.selectVerified userId)) (.ok none) =>
      ∀ named ∈ before, ∀ wrote ∈ before, ∀ id customerRef values,
        ownerIn named = some (id, userId, customerRef) → writtenBy wrote = some (id, values) → False
  | _ => True

structure Tables (start : Bindings) (s : BindingSnapshot client) : Prop where
  rows : ∀ id row, s.state.service.bindings.get? id = some row → Known start s.trace id row
  owners : ∀ entry ∈ s.trace, ∀ id userId customerRef,
    ownerIn entry = some (id, userId, customerRef) →
      ∃ row, s.state.service.bindings.get? id = some row ∧ row.userId = userId ∧
        row.customerRef = customerRef
  verified : ∀ entry ∈ s.trace, ∀ id values, writtenBy entry = some (id, values) →
    ∀ row, s.state.service.bindings.get? id = some row → row.status = .verified
  reads : Always (ReadLaw start) s.trace

variable {start : Bindings} {s later : BindingSnapshot client} {aes : AesGcm}

theorem Known.mono {trace grown : BindingTrace client} {id : String} {row : CustomerBinding}
    (known : Known start trace id row) (longer : trace <+: grown) : Known start grown id row := by
  rcases known with old | ⟨entry, member, left⟩
  · exact Or.inl old
  · exact Or.inr ⟨entry, longer.subset member, left⟩

theorem owner_of_inserted {before after : Bindings} {id userId customerRef : String}
    {values : VerifiedValues} {reply : Reply Unit}
    (move : RowsMove before after (.insertBinding id userId customerRef values) reply)
    (applied : reply.applied = true) :
    ∃ row, after.get? id = some row ∧ row.userId = userId ∧ row.customerRef = customerRef := by
  cases move with
  | kept _ _ silent =>
      rw [BindingRequest.written, if_pos applied] at silent
      cases silent
  | inserted => exact ⟨_, OrderedMap.get?_set_self .., rfl, rfl⟩

theorem owner_of_perform {state after : BindingState client} {request : BindingRequest}
    {answer : request.Answer} (performed : performBinding state request answer = some after)
    {id userId customerRef : String}
    (named : request.owner answer = some (id, userId, customerRef)) :
    ∃ row, after.bindings.get? id = some row ∧ row.userId = userId ∧
      row.customerRef = customerRef := by
  cases request with
  | selectBinding user ref =>
      cases answer with
      | failed applied reason => cases named
      | ok found =>
          cases found with
          | none => cases named
          | some other =>
              cases named
              obtain ⟨here, same⟩ := Option.ite_none_right_eq_some.mp performed
              cases same
              obtain ⟨row, found, isOf⟩ := (Option.any_eq_true _ _).mp here
              simp only [Bindings.isOf, Bool.and_eq_true, decide_eq_true_eq] at isOf
              exact ⟨row, found, isOf.1, isOf.2⟩
  | insertBinding other user ref values =>
      obtain ⟨applied, same⟩ := Option.ite_none_right_eq_some.mp named
      cases same
      exact owner_of_inserted (rowsMove_of_perform performed) applied
  | _ => cases named

theorem readLaw_of_told {tid : Nat} {request : BindingRequest} {answer : request.Answer}
    {after : BindingState client} (hold : Tables start s)
    (performed : performBinding s.state.service request answer = some after) (time : Nat) :
    ReadLaw start s.trace ⟨tid, time, .answered (.inr request) answer⟩ := by
  cases request with
  | selectVerified userId =>
      cases answer with
      | failed applied reason => exact trivial
      | ok found =>
          cases found with
          | some row =>
              obtain ⟨read, -⟩ := Option.ite_none_right_eq_some.mp performed
              rw [Bool.and_eq_true, List.any_eq_true] at read
              obtain ⟨verified, entry, member, same⟩ := read
              rw [decide_eq_true_eq] at same
              subst same
              simp only [Bindings.isVerifiedOf, Bool.and_eq_true, decide_eq_true_eq] at verified
              exact ⟨verified.1, verified.2, entry.1, hold.rows _ _ (OrderedMap.get?_of_mem member)⟩
          | none =>
              intro named inPast wrote wroteInPast id customerRef values owns writes
              obtain ⟨row, there, ofUser, -⟩ := hold.owners named inPast id userId customerRef owns
              have verified := hold.verified wrote wroteInPast id values writes row there
              simp only [performBinding] at performed
              split at performed
              · cases performed
              · rename_i absent
                apply absent
                rw [List.any_eq_true]
                refine ⟨(id, row), OrderedMap.mem_of_get? there, ?_⟩
                simp [Bindings.isVerifiedOf, ofUser, verified]
  | _ => exact trivial

theorem Tables.told (hold : Tables start s) {tid : Nat} {request : BindingRequest}
    {answer : request.Answer}
    (performed : performBinding s.state.service request answer = some later.state.service)
    (grown : later.trace = s.trace ++ [⟨tid, s.state.now, .answered (.inr request) answer⟩]) :
    Tables start later := by
  have move := rowsMove_of_perform performed
  have last : (⟨tid, s.state.now, .answered (.inr request) answer⟩ : BindingTraceEntry client) ∈
      later.trace := by simp [grown]
  constructor
  · intro id row found
    rcases move.kept_or_written found with old | ⟨values, wrote, verified, same⟩
    · exact (hold.rows id row old).mono ⟨_, grown.symm⟩
    · exact Or.inr ⟨_, last, values, wrote, verified, same⟩
  · intro entry member id userId customerRef named
    rw [grown] at member
    rcases List.mem_append.mp member with old | new
    · obtain ⟨row, there, ofUser, ofRef⟩ := hold.owners entry old id userId customerRef named
      obtain ⟨now, found, sameUser, sameRef, -⟩ := move.persists there
      exact ⟨now, found, sameUser.trans ofUser, sameRef.trans ofRef⟩
    · rw [List.mem_singleton.mp new] at named
      exact owner_of_perform performed named
  · intro entry member id values wrote row found
    rw [grown] at member
    rcases List.mem_append.mp member with old | new
    · rcases move.kept_or_written found with kept | ⟨_, _, verified, _⟩
      · exact hold.verified entry old id values wrote row kept
      · exact verified
    · rw [List.mem_singleton.mp new] at wrote
      exact move.verified_of_written wrote found
  · rw [grown, always_snoc]
    exact ⟨hold.reads, readLaw_of_told hold performed _⟩

theorem Tables.noted (hold : Tables start s) {entry : BindingTraceEntry client}
    (other : ∀ request answer, entry.event ≠ .answered (.inr request) answer)
    (same : later.state.service = s.state.service) (grown : later.trace = s.trace ++ [entry]) :
    Tables start later := by
  have unwritten : writtenBy entry = none := by
    unfold writtenBy
    split
    · rename_i request answer event
      exact absurd event (other _ _)
    · rfl
  have unnamed : ownerIn entry = none := by
    unfold ownerIn
    split
    · rename_i request answer event
      exact absurd event (other _ _)
    · rfl
  constructor
  · intro id row found
    rw [same] at found
    exact (hold.rows id row found).mono ⟨_, grown.symm⟩
  · intro known member id userId customerRef named
    rw [grown] at member
    rw [same]
    rcases List.mem_append.mp member with old | new
    · exact hold.owners known old id userId customerRef named
    · rw [List.mem_singleton.mp new, unnamed] at named
      cases named
  · intro known member id values wrote
    rw [grown] at member
    rw [same]
    rcases List.mem_append.mp member with old | new
    · exact hold.verified known old id values wrote
    · rw [List.mem_singleton.mp new, unwritten] at wrote
      cases wrote
  · rw [grown, always_snoc]
    refine ⟨hold.reads, ?_⟩
    unfold ReadLaw
    split
    · rename_i event
      exact absurd event (other _ _)
    · rename_i event
      exact absurd event (other _ _)
    · trivial

theorem ServiceMove.tables {requests : PortRequest ⊕ BindingRequest → Prop}
    (move : ServiceMove (bindingService client aes) requests s later) (hold : Tables start s) :
    Tables start later := by
  cases move with
  | told tid request answer allowed performed grown => exact hold.told performed grown
  | noted entry other same grown => exact hold.noted other same grown
  | quiet same silent =>
      obtain ⟨rows, owners, verified, reads⟩ := hold
      rw [← silent, ← same] at *
      exact ⟨rows, owners, verified, reads⟩

/-- In every run the trace tells where the rows come from. -/
theorem tables_reachable {wiring : Wiring} {environment : CacheEnvironment}
    {world : BindingWorld client} {p : BindingPool client}
    (reached : Reachable (bindingSystem client aes wiring environment) world p) :
    Tables world.service.bindings p.snapshot := by
  apply binding_of_steps (fun s later step hold => step.serviceMove.tables hold) _ reached
  constructor
  · exact fun _ _ found => Or.inl found
  · exact fun _ member => (List.not_mem_nil member).elim
  · exact fun _ member => (List.not_mem_nil member).elim
  · exact always_nil _

end Runs

end SelfService
