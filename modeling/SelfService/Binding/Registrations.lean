/-
A registration that is cut short.

`bindRegister` creates the customer at the customer service and then writes the
row; no transaction spans the two.  A call whose query for the row is answered
and whose write takes effect leaves the customer bound, whatever fails later.
One that loses the row leaves a customer whom nobody can bind.
-/

import SelfService.Binding.BindingProvenance

namespace SelfService

open Data EventLoop BindingService

/-! ### What a registration leaves -/

section Registrations

variable {client : CustomerServiceClient}

/-- The phone and the customer, where an entry reports that one was created. -/
def createdIn (entry : BindingTraceEntry client) : Option (String × CreateCustomerResult) :=
  match entry.event with
  | .answered (.inr (.client (.create phone _))) (.ok created) => some (phone, created)
  | _ => none

/-- The user of a registration that has ended, however it ended. -/
def registeredIn (entry : BindingTraceEntry client) : Option String :=
  match entry.event with
  | .finished (.inr (.bindRegister userId _ _ _ _ _)) _ => some userId
  | _ => none

/-- The query for the row fails, or the write of it takes no effect. -/
def losesRow (entry : BindingTraceEntry client) : Bool :=
  match entry.event with
  | .answered (.inr (.selectBinding _ _)) (.failed _ _) => true
  | .answered (.inr (.updateBinding _ _)) reply => !reply.applied
  | .answered (.inr (.insertBinding _ _ _ _)) reply => !reply.applied
  | _ => false

/-- The call has ended after it had created the customer. -/
def Registered (trace : BindingTrace client) (tid : Nat) (userId phone : String)
    (created : CreateCustomerResult) : Prop :=
  (∃ entry ∈ trace, entry.tid = tid ∧ registeredIn entry = some userId) ∧
    ∃ entry ∈ trace, entry.tid = tid ∧ createdIn entry = some (phone, created)

def KeepsRow (trace : BindingTrace client) (tid : Nat) : Prop :=
  ∀ entry ∈ trace, entry.tid = tid → losesRow entry = false

instance (trace : BindingTrace client) (tid : Nat) (userId phone : String)
    (created : CreateCustomerResult) : Decidable (Registered trace tid userId phone created) :=
  inferInstanceAs (Decidable (_ ∧ _))

instance (trace : BindingTrace client) (tid : Nat) : Decidable (KeepsRow trace tid) :=
  inferInstanceAs (Decidable (∀ _ ∈ _, _ → _))

end Registrations

def Bindings.bound (bindings : Bindings) (userId customerRef : String) : Bool :=
  bindings.entries.any fun entry =>
    isOf userId customerRef entry.2 && entry.2.status = .verified

/-- The user is bound to the customer, or nobody is known under the phone. -/
def BoundOrUnknown (s : BindingSnapshot mockCustomerService)
    (userId phone customerRef : String) : Prop :=
  s.state.service.bindings.bound userId customerRef = true ∨
    (MockCustomerServiceClient.resolve s.state.service.customers phone).status = .none

instance (s : BindingSnapshot mockCustomerService) (userId phone customerRef : String) :
    Decidable (BoundOrUnknown s userId phone customerRef) :=
  inferInstanceAs (Decidable (_ ∨ _))

/-! ### What a call accounts for -/

section Walk

variable {client : CustomerServiceClient} {aes : AesGcm} {wiring : Wiring}
  {environment : CacheEnvironment} {tid : Nat} {α β : Type} {state : BindingWorld client}
  {past all : BindingTrace client} {userId customerRef phone : String}
  {created : CreateCustomerResult}

/-- The row was lost, or an entry named it and an entry wrote it. -/
def RowSettled (userId customerRef : String) (past : BindingTrace client) : Prop :=
  (∃ entry ∈ past, losesRow entry = true) ∨
    ∃ named ∈ past, ∃ wrote ∈ past, ∃ id values,
      ownerIn named = some (id, userId, customerRef) ∧ writtenBy wrote = some (id, values)

/-- For every customer that was created the row is settled. -/
def RowsAccounted (userId : String) (past : BindingTrace client) : Prop :=
  ∀ made ∈ past.filterMap createdIn, RowSettled userId made.2.customerRef past

theorem RowSettled.mono (grown : past <+: all) (settled : RowSettled userId customerRef past) :
    RowSettled userId customerRef all := by
  rcases settled with ⟨entry, member, lost⟩ | ⟨named, namedIn, wrote, wroteIn, found⟩
  · exact Or.inl ⟨entry, grown.subset member, lost⟩
  · exact Or.inr ⟨named, grown.subset namedIn, wrote, grown.subset wroteIn, found⟩

theorem settled_of_insert {time : Nat} {rowId : String} {values : VerifiedValues}
    (reply : Reply Unit) :
    RowSettled userId customerRef (past ++
      [⟨tid, time, .answered (.inr (.insertBinding rowId userId customerRef values)) reply⟩]) := by
  cases took : reply.applied with
  | false => exact Or.inl ⟨_, List.mem_concat_self, congrArg not took⟩
  | true =>
      exact Or.inr ⟨_, List.mem_concat_self, _, List.mem_concat_self, rowId, values, if_pos took,
        if_pos took⟩

theorem settled_of_update {time : Nat} {id : String} {values : VerifiedValues}
    {named : BindingTraceEntry client} (member : named ∈ past)
    (owner : ownerIn named = some (id, userId, customerRef)) (reply : Reply Unit) :
    RowSettled userId customerRef
      (past ++ [⟨tid, time, .answered (.inr (.updateBinding id values)) reply⟩]) := by
  cases took : reply.applied with
  | false => exact Or.inl ⟨_, List.mem_concat_self, congrArg not took⟩
  | true =>
      exact Or.inr ⟨named, List.mem_append_left _ member, _, List.mem_concat_self, id, values,
        owner, if_pos took⟩

theorem accounted_of_nothing (nothing : past.filterMap createdIn = []) :
    RowsAccounted userId past := by
  intro made member
  rw [nothing] at member
  cases member

theorem accounted_of_settled (creates : past.filterMap createdIn = [(phone, created)])
    (settled : RowSettled userId created.customerRef past) : RowsAccounted userId past := by
  intro made member
  rw [creates, List.mem_singleton] at member
  exact member ▸ settled

/-- Not the creation of a customer. -/
def Uncreating (request : PortRequest ⊕ BindingRequest) : Prop :=
  ∀ phone profile, request ≠ .inr (.client (.create phone profile))

theorem createdIn_of_uncreating {request : PortRequest ⊕ BindingRequest}
    {answer : (portSignature (binding client)).Ans request} (uncreating : Uncreating request)
    (tid time : Nat) :
    createdIn (⟨tid, time, .answered request answer⟩ : BindingTraceEntry client) = none := by
  unfold createdIn
  split
  · rename_i phone profile created event
    cases event
    exact absurd rfl (uncreating phone profile)
  · rfl

theorem created_of_adds (adds : Adds tid Uncreating past all) :
    all.filterMap createdIn = past.filterMap createdIn := by
  obtain ⟨more, rfl, kinds⟩ := adds
  have nothing : more.filterMap createdIn = [] := by
    rw [List.filterMap_eq_nil_iff]
    rintro ⟨other, time, event⟩ member
    obtain ⟨-, ⟨label, rfl⟩ | ⟨request, answer, rfl, uncreating⟩⟩ := kinds _ member
    · rfl
    · exact createdIn_of_uncreating uncreating other time
  rw [List.filterMap_append, nothing, List.append_nil]

theorem RowsAccounted.of_adds (accounted : RowsAccounted userId past)
    (adds : Adds tid Uncreating past all) : RowsAccounted userId all := by
  intro made member
  rw [created_of_adds adds] at member
  exact (accounted made member).mono adds.grown

def AccountLaw (userId : String) (past : BindingTrace client)
    (entry : BindingTraceEntry client) : Prop :=
  match entry.event with
  | .finished _ _ => RowsAccounted userId past
  | _ => True

/-- When the task ends, it has accounted for what it created. -/
abbrev Accounts (aes : AesGcm) (wiring : Wiring) (environment : CacheEnvironment) (tid : Nat)
    (userId : String) (task : BindingTask client α) (state : BindingWorld client)
    (past : BindingTrace client) : Prop :=
  Obeys (bindingSystem client aes wiring environment) tid (AccountLaw userId)
    (fun _ _ all => RowsAccounted userId all) task state past

theorem accounts_of_uncreating {task : BindingTask client α}
    (uncreating : task.Asks Uncreating fun _ => True) (accounted : RowsAccounted userId past) :
    Accounts aes wiring environment tid userId task state past :=
  (uncreating.obeys (fun _ _ _ _ _ => trivial) fun _ _ _ _ => trivial).mono
    fun _ _ _ adds => accounted.of_adds adds

theorem accounts_bind {task : BindingTask client α} {rest : α → BindingTask client β}
    (uncreating : task.Asks Uncreating fun _ => True)
    (nothing : past.filterMap createdIn = [])
    (next : ∀ value last all, all.filterMap createdIn = [] →
      Accounts aes wiring environment tid userId (rest value) last all) :
    Accounts aes wiring environment tid userId (task >>= rest) state past := by
  apply uncreating.obeys_bind
  · exact fun _ _ _ _ _ => trivial
  · exact fun _ _ _ _ => trivial
  · exact fun _ _ _ adds => accounted_of_nothing ((created_of_adds adds).trans nothing)
  · exact fun value last all adds => next value last all ((created_of_adds adds).trans nothing)

theorem accounts_create {request : CreateCustomerRequest}
    {rest : Except Exn CreateCustomerResult → BindingTask client β}
    (nothing : past.filterMap createdIn = [])
    (made : ∀ created last all, all.filterMap createdIn = [(phone, created)] →
      Accounts aes wiring environment tid userId (rest (.ok created)) last all)
    (refused : ∀ error last all, all.filterMap createdIn = [] →
      Accounts aes wiring environment tid userId (rest (.error error)) last all) :
    Accounts aes wiring environment tid userId
      ((CustomerServiceClient.create phone request).attempt >>= rest) state past := by
  intro outcome before after resumed performed
  refine ⟨trivial, ?_⟩
  cases outcome with
  | ok created =>
      apply made created
      rw [List.filterMap_append, nothing]
      rfl
  | error error =>
      apply refused error
      rw [List.filterMap_append, nothing]
      rfl

theorem accounts_ofReply {reply : Reply Unit} {rest : Unit → BindingTask client β}
    (uncreating : (rest ()).Asks Uncreating fun _ => True)
    (accounted : RowsAccounted userId past) :
    Accounts aes wiring environment tid userId (ofReply reply >>= rest) state past := by
  cases reply with
  | ok done => exact accounts_of_uncreating uncreating accounted
  | failed applied reason => exact accounted

theorem accounts_upsertVerified {rowId : String} {values : VerifiedValues}
    {rest : Unit → BindingTask client β} (creates : past.filterMap createdIn = [(phone, created)])
    (uncreating : (rest ()).Asks Uncreating fun _ => True) :
    Accounts aes wiring environment tid userId
      (upsertVerified userId created.customerRef values rowId >>= rest) state past := by
  have still {entry : BindingTraceEntry client} {trace : BindingTrace client}
      (made : trace.filterMap createdIn = [(phone, created)])
      (silent : createdIn entry = none) :
      (trace ++ [entry]).filterMap createdIn = [(phone, created)] := by
    rw [List.filterMap_append, made, List.filterMap_cons_none silent]
    rfl
  intro answer before after resumed performed
  refine ⟨trivial, ?_⟩
  cases answer with
  | failed applied reason =>
      apply accounted_of_settled (still creates rfl)
      exact Or.inl ⟨_, List.mem_concat_self, rfl⟩
  | ok found =>
      cases found with
      | none =>
          intro reply beforeWrite afterWrite later written
          refine ⟨trivial, ?_⟩
          apply accounts_ofReply uncreating
          exact accounted_of_settled (still (still creates rfl) rfl) (settled_of_insert reply)
      | some id =>
          intro reply beforeWrite afterWrite later written
          refine ⟨trivial, ?_⟩
          apply accounts_ofReply uncreating
          exact accounted_of_settled (still (still creates rfl) rfl)
            (settled_of_update List.mem_concat_self rfl reply)

theorem uncreating_cache (command : CacheCommand) : Uncreating (.inl (.cache command)) :=
  fun _ _ => Sum.inl_ne_inr

theorem uncreating_writeAudit (entry : BindingAuditEntry) :
    (writeAudit entry : BindingTask client Unit).Asks Uncreating fun _ => True := by
  apply Task.Asks.bind
  · refine Task.Asks.attempt ⟨?_, fun reply => asks_ofReply (reply : Reply Unit)⟩
    intro phone profile same
    cases same
  · exact fun _ => trivial

theorem uncreating_warm (customerRef : String) (values : VerifiedValues) :
    (warm userId customerRef values : BindingTask client Unit).Asks Uncreating fun _ => True := by
  apply Task.Asks.bind
  · exact (asks_set (uncreating_cache _)).attempt
  · exact fun _ => trivial

theorem uncreating_getSessionPhone :
    (getSessionPhone userId : BindingTask client (Option String)).Asks Uncreating
      fun _ => True := by
  constructor
  · intro phone profile same
    cases same
  · intro answer
    cases answer with
    | ok phone => exact trivial
    | failed applied reason => exact trivial

theorem uncreating_resolve :
    (CustomerServiceClient.resolve phone : BindingTask client ResolveResult).Asks Uncreating
      fun _ => True := by
  constructor
  · intro phone profile same
    cases same
  · intro outcome
    cases outcome with
    | ok value => exact trivial
    | error error => exact trivial

theorem accounts_register {sessionId : String} {deviceInfo ip : Option String} {draws : Draws}
    (creates : past.filterMap createdIn = [(phone, created)]) :
    Accounts aes wiring environment tid userId
      (register aes userId sessionId created deviceInfo ip draws) state past := by
  change Accounts aes wiring environment tid userId
    (upsertVerified userId created.customerRef _ draws.rowId >>= _) state past
  apply accounts_upsertVerified creates
  refine Task.Asks.bind (asks_delete (uncreating_cache _)) fun _ => ?_
  refine Task.Asks.bind (uncreating_writeAudit _) fun _ => ?_
  exact Task.Asks.bind (uncreating_warm _ _) fun _ => trivial

theorem accounts_bindRegister {sessionId : String} {request : CreateCustomerRequest}
    {deviceInfo ip : Option String} {draws : Draws} (nothing : past.filterMap createdIn = []) :
    Accounts aes wiring environment tid userId
      (bindRegister aes userId sessionId request deviceInfo ip draws) state past := by
  apply accounts_bind uncreating_getSessionPhone nothing
  intro phone last all nothing
  cases phone with
  | none => exact accounted_of_nothing nothing
  | some phone =>
      apply accounts_bind uncreating_resolve nothing
      intro resolved last all nothing
      simp only
      split
      · apply accounts_create nothing
        · intro created last all creates
          exact accounts_register creates
        · intro error last all nothing
          split
          · rename_i same
            cases same
          · exact accounts_bind (uncreating_writeAudit _) nothing
              fun _ _ _ nothing => accounted_of_nothing nothing
          · exact accounted_of_nothing nothing
      · exact accounts_bind (uncreating_writeAudit _) nothing
          fun _ _ _ nothing => accounted_of_nothing nothing

theorem bindRegister_accounts {sessionId : String} {request : CreateCustomerRequest}
    {deviceInfo ip : Option String} {draws : Draws} :
    Lawful (bindingSystem client aes wiring environment) (AccountLaw userId) tid
      (.inr (.bindRegister userId sessionId request deviceInfo ip draws)) where
  starts _ := trivial
  obeys _ _ := by
    change Obeys _ _ _ _ (bindRegister aes userId sessionId request deviceInfo ip draws >>=
      fun result => .done (Resolution.value result.toJs)) _ _
    rw [obeys_bind]
    apply (accounts_bindRegister rfl).mono
    intro result last all accounted
    cases result with
    | ok result => exact fun _ => accounted
    | error error => exact fun _ => accounted

end Walk

/-! ### In every run -/

section Runs

variable {client : CustomerServiceClient} {aes : AesGcm} {wiring : Wiring}
  {environment : CacheEnvironment} {world : BindingWorld client} {p : BindingPool client}
  {tid : Nat} {userId phone : String} {created : CreateCustomerResult}

theorem accounted_of_registered
    (reached : Reachable (bindingSystem client aes wiring environment) world p)
    (registered : Registered p.snapshot.trace tid userId phone created) :
    RowSettled userId created.customerRef (ownEntries tid p.snapshot.trace) := by
  obtain ⟨⟨⟨other, time, event⟩, ended, rfl, registers⟩, made, creation, own, creates⟩ := registered
  unfold registeredIn at registers
  split at registers
  · rename_i user sessionId request deviceInfo ip draws result finished
    cases registers
    obtain rfl : event = _ := finished
    obtain ⟨before, after, split⟩ := List.append_of_mem ended
    have accounted : RowsAccounted userId (ownEntries other before) :=
      reached.lawful_call split (reached.finished_began split) bindRegister_accounts
    have whole : ownEntries other p.snapshot.trace = ownEntries other before ++
        [⟨other, time, .finished
          (.inr (.bindRegister userId sessionId request deviceInfo ip draws)) result⟩] := by
      rw [ownEntries_split split, reached.finished_last split]
    have earlier : made ∈ ownEntries other before := by
      have mine : made ∈ ownEntries other p.snapshot.trace := mem_ownEntries.mpr ⟨creation, own⟩
      rw [whole] at mine
      rcases List.mem_append.mp mine with there | last
      · exact there
      · rw [List.mem_singleton.mp last] at creates
        cases creates
    have settled := accounted _ (List.mem_filterMap.mpr ⟨made, earlier, creates⟩)
    exact settled.mono ⟨_, whole.symm⟩
  · cases registers

/-- A registration that keeps its row leaves the user bound. -/
theorem bound_of_registered
    (reached : Reachable (bindingSystem client aes wiring environment) world p)
    (registered : Registered p.snapshot.trace tid userId phone created)
    (keeps : KeepsRow p.snapshot.trace tid) :
    p.snapshot.state.service.bindings.bound userId created.customerRef = true := by
  rcases accounted_of_registered reached registered with
    ⟨entry, member, lost⟩ | ⟨named, namedIn, wrote, wroteIn, id, values, owner, written⟩
  · obtain ⟨inTrace, own⟩ := mem_ownEntries.mp member
    rw [keeps entry inTrace own] at lost
    cases lost
  · have tables := tables_reachable reached
    obtain ⟨row, stands, ofUser, ofRef⟩ :=
      tables.owners named (mem_ownEntries.mp namedIn).1 id userId created.customerRef owner
    have verified :=
      tables.verified wrote (mem_ownEntries.mp wroteIn).1 id values written row stands
    refine List.any_eq_true.mpr ⟨(id, row), OrderedMap.mem_of_get? stands, ?_⟩
    simp [Bindings.isOf, ofUser, ofRef, verified]

/-- Whatever fails around it and whatever the others do, a registration that keeps its row is
not left half done. -/
theorem registration_all_or_nothing (aes : AesGcm) (wiring : Wiring)
    (environment : CacheEnvironment) (world : BindingWorld mockCustomerService)
    (p : BindingPool mockCustomerService)
    (reached : Reachable (bindingSystem mockCustomerService aes wiring environment) world p)
    (tid : Nat) (userId phone : String) (created : CreateCustomerResult)
    (registered : Registered p.snapshot.trace tid userId phone created)
    (keeps : KeepsRow p.snapshot.trace tid) :
    BoundOrUnknown p.snapshot userId phone created.customerRef :=
  Or.inl (bound_of_registered reached registered keeps)

end Runs

/-! ### A customer without a past -/

def household : CreateCustomerRequest where
  fullName := "Trần Văn Mới"
  classification := .sinhHoat
  address := ⟨"5 Bạch Đằng", "Hải Châu 1", "Hải Châu", "Đà Nẵng"⟩
  email := none

def registersHousehold : BindingCall :=
  .bindRegister "U-1" "S-1" household none none ⟨firstIv, "1"⟩

theorem registration_all_or_nothing_household :
    ∃ p, Reachable (mockBinding memoryBinding) (freshBinding 1700000000000) p ∧
      Registered p.snapshot.trace 0 "U-1" "+84901234567" ⟨"APP-000001", "REF-NEW-000001"⟩ ∧
      BoundOrUnknown p.snapshot "U-1" "+84901234567" "REF-NEW-000001" := by
  obtain ⟨p, reached, registered, keeps⟩ : ∃ p, Reachable (mockBinding memoryBinding)
      (freshBinding 1700000000000) p ∧
        Registered p.snapshot.trace 0 "U-1" "+84901234567" ⟨"APP-000001", "REF-NEW-000001"⟩ ∧
        KeepsRow p.snapshot.trace 0 :=
    exists_reachable _ _ (obliging memoryBinding.backend "+84901234567")
      (arrives 0 registersHousehold 30) (by decide +kernel)
  exact ⟨p, reached, registered, registration_all_or_nothing sampleCipher memoryBinding .any _ p
    reached 0 "U-1" "+84901234567" ⟨"APP-000001", "REF-NEW-000001"⟩ registered keeps⟩

/-- The customer is created, and then the database fails. -/
def losesHousehold : List BindingMove :=
  arrives 0 registersHousehold 4 ++
    [.act (.answer 0 (.inr (.selectBinding "U-1" "REF-NEW-000001"))
      (Reply.failed false "Connection terminated")), .turn 0]

/-- The customer exists and is not bound, and no secret will do. -/
theorem registration_half_done :
    (∃ p, Reachable (mockBinding memoryBinding) (freshBinding 1700000000000) p ∧
      Registered p.snapshot.trace 0 "U-1" "+84901234567" ⟨"APP-000001", "REF-NEW-000001"⟩ ∧
      ¬ BoundOrUnknown p.snapshot "U-1" "+84901234567" "REF-NEW-000001") ∧
    ∀ secretType secretValue,
      MockCustomerServiceClient.verify ⟨"REF-NEW-000001", secretType, secretValue⟩ = ⟨false⟩ := by
  constructor
  · exact exists_reachable _ _ (obliging memoryBinding.backend "+84901234567") losesHousehold
      (by decide +kernel)
  · intro secretType secretValue
    have unknown : MockCustomerServiceClient.seed "REF-NEW-000001" = none := by decide +kernel
    rw [MockCustomerServiceClient.verify, unknown]

end SelfService
