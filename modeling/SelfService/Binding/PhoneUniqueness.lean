/-
One customer for a phone.

As long as no statement fails and no call overtakes the one that reads the table, the
map knows every customer of the table, and an insertion under way is for a phone the
table does not have.
-/

import SelfService.Binding.DurableCustomers

namespace SelfService

open Data MockCustomerServiceClient

namespace DurableClient

/-! ### The invariant -/

/-- The map knows what the table holds once it is loaded, and no insertion is under way for a
phone of the table. -/
structure Sound (s : DurableClient) : Prop where
  distinct : (storedPhones s.table).Nodup
  pending : ∀ tid customer, s.calls tid = .inserting customer →
    customer.phone ∉ storedPhones s.table ∧
      s.client.createdCustomers.contains customer.phone = true ∧
      (rowOf customer).customer?.map SeedCustomer.phone = some customer.phone
  apart : ∀ tid other customer twin, s.calls tid = .inserting customer →
    s.calls other = .inserting twin → customer.phone = twin.phone → tid = other
  cold : s.hydrated = false → ∀ tid, s.calls tid = .absent ∨ ∃ call, s.calls tid = .arrived call
  loading : ∀ tid, (s.calls tid).Hydrates → ∀ other,
    (∀ customer, s.calls other ≠ .inserting customer) ∧ ((s.calls other).Hydrates → other = tid)
  fetched : ∀ tid call outcome, s.calls tid = .selected call outcome → outcome = .ok s.table
  written : ∀ tid customer outcome, s.calls tid = .inserted customer outcome →
    outcome = .ok () ∧ rowOf customer ∈ s.table
  loaded : s.hydrated = true → s.Loaded → ∀ phone ∈ storedPhones s.table,
    s.client.createdCustomers.contains phone = true

section Steps

variable {s next : DurableClient} {tid : Nat}

@[simp] theorem settle_self (phase : CallPhase) : (s.settle tid phase).calls tid = phase :=
  Function.update_self ..

theorem settle_other {other : Nat} (different : other ≠ tid) (phase : CallPhase) :
    (s.settle tid phase).calls other = s.calls other :=
  Function.update_of_ne different ..

@[simp] theorem settle_client (phase : CallPhase) : (s.settle tid phase).client = s.client := rfl

@[simp] theorem settle_hydrated (phase : CallPhase) :
    (s.settle tid phase).hydrated = s.hydrated := rfl

@[simp] theorem settle_table (phase : CallPhase) : (s.settle tid phase).table = s.table := rfl

/-- A phase in which a call waits for nothing. -/
def Idle (phase : CallPhase) : Prop :=
  ¬ phase.Hydrates ∧ (∀ customer, phase ≠ .inserting customer) ∧
    ∀ customer outcome, phase ≠ .inserted customer outcome

/-- A call that does not hydrate goes on to wait for nothing. -/
theorem Sound.quiet (sound : s.Sound) {phase : CallPhase} (idle : Idle phase)
    (before : ¬ (s.calls tid).Hydrates)
    (warm : s.hydrated = true ∨ phase = .absent ∨ ∃ call, phase = .arrived call) :
    (s.settle tid phase).Sound := by
  have old {other : Nat} {found : CallPhase} (there : (s.settle tid phase).calls other = found)
      (different : found ≠ phase) : s.calls other = found := by
    by_cases same : other = tid
    · subst same
      rw [settle_self] at there
      exact absurd there.symm different
    · rwa [settle_other same] at there
  have hydrates {other : Nat} (there : ((s.settle tid phase).calls other).Hydrates) :
      (s.calls other).Hydrates := by
    by_cases same : other = tid
    · subst same
      rw [settle_self] at there
      exact absurd there idle.1
    · rwa [settle_other same] at there
  constructor
  · exact sound.distinct
  · intro other customer there
    exact sound.pending other customer (old there fun same => idle.2.1 customer same.symm)
  · intro first second customer twin here there same
    exact sound.apart first second customer twin
      (old here fun equal => idle.2.1 customer equal.symm)
      (old there fun equal => idle.2.1 twin equal.symm) same
  · intro cold other
    by_cases same : other = tid
    · subst same
      rw [settle_self]
      rcases warm with warm | absent | arrived
      · rw [settle_hydrated, warm] at cold
        cases cold
      · exact Or.inl absent
      · exact Or.inr arrived
    · rw [settle_other same]
      exact sound.cold cold other
  · intro other there another
    have ⟨quiet, alone⟩ := sound.loading other (hydrates there) another
    refine ⟨?_, fun also => alone (hydrates also)⟩
    intro customer inserting
    exact quiet customer (old inserting fun same => idle.2.1 customer same.symm)
  · intro other call outcome there
    have waits : (s.calls other).Hydrates := hydrates (there ▸ .selected call outcome)
    by_cases same : other = tid
    · subst same
      exact absurd waits before
    · rw [settle_other same] at there
      exact sound.fetched other call outcome there
  · intro other customer outcome there
    exact sound.written other customer outcome
      (old there fun same => idle.2.2 customer outcome same.symm)
  · intro hot loaded phone stored
    apply sound.loaded hot _ phone stored
    intro other waits
    by_cases same : other = tid
    · subst same
      exact before waits
    · exact loaded other (by rwa [settle_other same])

/-! ### One lemma for each kind of step -/

theorem contains_set (client : OrderedMap String SeedCustomer) (customer : SeedCustomer)
    {phone : String} (there : client.contains phone = true ∨ customer.phone = phone) :
    (client.set customer.phone customer).contains phone = true := by
  unfold OrderedMap.contains at *
  by_cases same : customer.phone = phone
  · subst same
    rw [OrderedMap.get?_set_self]
    rfl
  · rw [OrderedMap.get?_set_of_ne _ _ same]
    exact there.resolve_right same

theorem contains_load (client : MockCustomerServiceClient) (row : StoreRow) {phone : String}
    (there : client.createdCustomers.contains phone = true ∨
      row.customer?.map SeedCustomer.phone = some phone) :
    (load client row).createdCustomers.contains phone = true := by
  unfold load
  split
  · rename_i missing
    rw [missing] at there
    exact there.resolve_right fun wrong => by cases wrong
  · rename_i customer found
    rw [found] at there
    exact contains_set _ _ (there.imp_right Option.some.inj)

/-- After loading, the map knows the customers of the table. -/
theorem contains_foldl_load (rows : List StoreRow) {phone : String} :
    ∀ client : MockCustomerServiceClient,
      (client.createdCustomers.contains phone = true ∨ phone ∈ storedPhones rows) →
        (rows.foldl load client).createdCustomers.contains phone = true := by
  induction rows with
  | nil => exact fun client there => there.resolve_right (List.not_mem_nil)
  | cons row rest ih =>
      intro client there
      apply ih (load client row)
      rcases there with known | stored
      · exact Or.inl (contains_load client row (Or.inl known))
      · obtain ⟨other, member, same⟩ := List.mem_filterMap.mp stored
        rcases List.mem_cons.mp member with rfl | later
        · exact Or.inl (contains_load client other (Or.inr same))
        · exact Or.inr (List.mem_filterMap.mpr ⟨other, later, same⟩)

theorem customerRef_ne (count : Nat) (phone : String) (profile : CreateCustomerRequest) :
    (newCustomer count phone profile).customerRef ≠ "" := by
  intro empty
  have lengths := congrArg (fun text => text.toList.length) empty
  simp [newCustomer] at lengths

theorem stored_new (count : Nat) {phone : String} (profile : CreateCustomerRequest)
    (digits : phone ≠ "") :
    (rowOf (newCustomer count phone profile)).customer?.map SeedCustomer.phone = some phone := by
  have named := customerRef_ne count phone profile
  have filled : (newCustomer count phone profile).phone ≠ "" := digits
  simp only [rowOf, StoreRow.customer?, named, filled, or_self, if_false]
  rfl

theorem create_known {client : MockCustomerServiceClient} {phone : String}
    (profile : CreateCustomerRequest)
    (known : client.createdCustomers.contains (normalizePhone phone) = true ∨
      ∃ seeded ∈ SEED_CUSTOMERS, seeded.phone = normalizePhone phone) :
    client.create phone profile = (.error
      (.conflict "A customer for this phone already exists" "CUSTOMER_PHONE_EXISTS"
        (.obj [("phone", .str (normalizePhone phone))])), client) := by
  have exists_ : (client.createdCustomers.contains (normalizePhone phone) ||
      SEED_CUSTOMERS.any fun seeded => seeded.phone = normalizePhone phone) = true := by
    rcases known with there | ⟨seeded, member, same⟩
    · rw [there, Bool.true_or]
    · rw [Bool.or_eq_true]
      exact Or.inr (List.any_eq_true.mpr ⟨seeded, member, decide_eq_true same⟩)
  unfold MockCustomerServiceClient.create
  rw [if_pos exists_]

theorem create_cases (client : MockCustomerServiceClient) (phone : String)
    (profile : CreateCustomerRequest) :
    (∃ error, client.create phone profile = (.error error, client)) ∨
      (client.createdCustomers.contains (normalizePhone phone) = false ∧
        ∃ result, client.create phone profile = (.ok result,
          ⟨client.createdCustomers.set (normalizePhone phone)
              (newCustomer (client.createdCustomerCounter + 1) (normalizePhone phone) profile),
            client.createdCustomerCounter + 1⟩)) := by
  unfold MockCustomerServiceClient.create
  dsimp only
  split
  · exact Or.inl ⟨_, rfl⟩
  · rename_i unknown
    rw [Bool.not_eq_true, Bool.or_eq_false_iff] at unknown
    exact Or.inr ⟨unknown.1, _, rfl⟩

/-- The first call of a process goes for the rows. -/
theorem Sound.hydrate (sound : s.Sound) (cold : s.hydrated = false) (call : CustomerCall) :
    ({ s with hydrated := true }.settle tid (.hydrating call)).Sound := by
  have early {other : Nat} {found : CallPhase}
      (there : ({ s with hydrated := true }.settle tid (.hydrating call)).calls other = found) :
      other = tid ∧ found = .hydrating call ∨ found = .absent ∨ ∃ later, found = .arrived later := by
    by_cases same : other = tid
    · subst same
      rw [settle_self] at there
      exact Or.inl ⟨rfl, there.symm⟩
    · rw [settle_other same] at there
      exact Or.inr (there ▸ sound.cold cold other)
  constructor
  · exact sound.distinct
  · intro other customer there
    rcases early there with ⟨-, wrong⟩ | wrong | ⟨later, wrong⟩ <;> cases wrong
  · intro first second customer twin here
    rcases early here with ⟨-, wrong⟩ | wrong | ⟨later, wrong⟩ <;> cases wrong
  · exact nofun
  · intro other waits another
    constructor
    · intro customer there
      rcases early there with ⟨-, wrong⟩ | wrong | ⟨later, wrong⟩ <;> cases wrong
    · intro also
      have own {index : Nat} (hydrates : (({ s with hydrated := true }.settle tid
          (.hydrating call)).calls index).Hydrates) : index = tid := by
        rcases early rfl with ⟨same, -⟩ | wrong | ⟨later, wrong⟩
        · exact same
        · rw [wrong] at hydrates
          cases hydrates
        · rw [wrong] at hydrates
          cases hydrates
      rw [own also, own waits]
  · intro other later outcome there
    rcases early there with ⟨-, wrong⟩ | wrong | ⟨_, wrong⟩ <;> cases wrong
  · intro other customer outcome there
    rcases early there with ⟨-, wrong⟩ | wrong | ⟨later, wrong⟩ <;> cases wrong
  · intro _ loaded
    have waits := loaded tid
    rw [settle_self] at waits
    exact absurd (.hydrating call) waits

/-- The rows arrive. -/
theorem Sound.select (sound : s.Sound) {call : CustomerCall}
    (here : s.calls tid = .hydrating call) :
    (s.settle tid (.selected call (.ok s.table))).Sound := by
  have waits : (s.calls tid).Hydrates := here ▸ .hydrating call
  have hot : s.hydrated ≠ false := by
    intro cold
    rcases sound.cold cold tid with wrong | ⟨later, wrong⟩ <;> rw [here] at wrong <;> cases wrong
  have idle (other : Nat) (customer : SeedCustomer) : s.calls other ≠ .inserting customer :=
    (sound.loading tid waits other).1 customer
  have never {other : Nat} {customer : SeedCustomer}
      (there : (s.settle tid (.selected call (.ok s.table))).calls other = .inserting customer) :
      False := by
    by_cases same : other = tid
    · subst same
      rw [settle_self] at there
      cases there
    · rw [settle_other same] at there
      exact idle other customer there
  have own {other : Nat} (hydrates : ((s.settle tid (.selected call (.ok s.table))).calls
      other).Hydrates) : other = tid := by
    by_contra different
    rw [settle_other different] at hydrates
    exact different ((sound.loading tid waits other).2 hydrates)
  constructor
  · exact sound.distinct
  · exact fun other customer there => (never there).elim
  · exact fun first second customer twin there => (never there).elim
  · exact fun cold => absurd cold hot
  · intro other hydrates another
    exact ⟨fun customer there => never there, fun also => (own also).trans (own hydrates).symm⟩
  · intro other later outcome there
    by_cases same : other = tid
    · subst same
      rw [settle_self] at there
      cases there
      rfl
    · rw [settle_other same] at there
      exact sound.fetched other later outcome there
  · intro other customer outcome there
    by_cases same : other = tid
    · subst same
      rw [settle_self] at there
      cases there
    · rw [settle_other same] at there
      exact sound.written other customer outcome there
  · intro _ loaded
    have waiting := loaded tid
    rw [settle_self] at waiting
    exact absurd (.selected call _) waiting

/-- The rows are loaded, and the call goes on. -/
theorem Sound.load (sound : s.Sound) {call : CustomerCall}
    {outcome : Except Exn (List StoreRow)} (here : s.calls tid = .selected call outcome)
    {client : MockCustomerServiceClient}
    (knows : ∀ phone ∈ storedPhones s.table, client.createdCustomers.contains phone = true) :
    ({ s with client := client }.settle tid (.passed call)).Sound := by
  have waits : (s.calls tid).Hydrates := here ▸ .selected call _
  have hot : s.hydrated ≠ false := by
    intro cold
    rcases sound.cold cold tid with wrong | ⟨later, wrong⟩ <;> rw [here] at wrong <;> cases wrong
  have old {other : Nat} {found : CallPhase}
      (there : ({ s with client := client }.settle tid (.passed call)).calls other = found)
      (different : found ≠ .passed call) : s.calls other = found := by
    by_cases same : other = tid
    · subst same
      rw [settle_self] at there
      exact absurd there.symm different
    · rwa [settle_other same] at there
  have done (other : Nat) :
      ¬ (({ s with client := client }.settle tid (.passed call)).calls other).Hydrates := by
    intro hydrates
    by_cases same : other = tid
    · subst same
      rw [settle_self] at hydrates
      cases hydrates
    · rw [settle_other same] at hydrates
      exact same ((sound.loading tid waits other).2 hydrates)
  constructor
  · exact sound.distinct
  · intro other customer there
    exact absurd (old there nofun) ((sound.loading tid waits other).1 customer)
  · intro first second customer twin there
    exact absurd (old there nofun) ((sound.loading tid waits first).1 customer)
  · exact fun cold => absurd cold hot
  · exact fun other hydrates => absurd hydrates (done other)
  · intro other later found there
    exact absurd (there ▸ .selected later found) (done other)
  · intro other customer found there
    exact sound.written other customer found (old there nofun)
  · exact fun _ _ => knows

/-- A customer is created in the map. -/
theorem Sound.create (sound : s.Sound) {phone : String} {profile : CreateCustomerRequest}
    (here : s.calls tid = .passed (.create phone profile)) (loaded : s.Loaded)
    (digits : normalizePhone phone ≠ "")
    (unknown : s.client.createdCustomers.contains (normalizePhone phone) = false) (count : Nat) :
    ({ s with client := ⟨s.client.createdCustomers.set (normalizePhone phone)
        (newCustomer count (normalizePhone phone) profile), count⟩ }.settle tid
          (.inserting (newCustomer count (normalizePhone phone) profile))).Sound := by
  have hot : s.hydrated = true := by
    by_contra cold
    rcases sound.cold (Bool.not_eq_true _ ▸ cold) tid with wrong | ⟨later, wrong⟩ <;>
      rw [here] at wrong <;> cases wrong
  have fresh : normalizePhone phone ∉ storedPhones s.table := by
    intro stored
    rw [sound.loaded hot loaded _ stored] at unknown
    cases unknown
  have grows {other : String} (there : s.client.createdCustomers.contains other = true) :
      (s.client.createdCustomers.set (normalizePhone phone)
        (newCustomer count (normalizePhone phone) profile)).contains other = true :=
    contains_set _ (newCustomer count (normalizePhone phone) profile) (Or.inl there)
  have done (other : Nat) : ¬ (({ s with client := ⟨s.client.createdCustomers.set
      (normalizePhone phone) (newCustomer count (normalizePhone phone) profile), count⟩ }.settle tid
        (.inserting (newCustomer count (normalizePhone phone) profile))).calls other).Hydrates := by
    intro hydrates
    by_cases same : other = tid
    · subst same
      rw [settle_self] at hydrates
      cases hydrates
    · rw [settle_other same] at hydrates
      exact loaded other hydrates
  have apart_ {other : Nat} {customer : SeedCustomer} (there : s.calls other = .inserting customer) :
      customer.phone ≠ normalizePhone phone := by
    intro same
    have known := (sound.pending other customer there).2.1
    rw [same, unknown] at known
    cases known
  constructor
  · exact sound.distinct
  · intro other customer there
    by_cases same : other = tid
    · subst same
      rw [settle_self] at there
      cases there
      exact ⟨fresh, contains_set _ (newCustomer count (normalizePhone phone) profile) (Or.inr rfl),
        stored_new count profile digits⟩
    · rw [settle_other same] at there
      have ⟨absent, known, named⟩ := sound.pending other customer there
      exact ⟨absent, grows known, named⟩
  · intro first second customer twin there also samePhone
    by_cases one : first = tid
    · by_cases two : second = tid
      · exact one.trans two.symm
      · subst one
        rw [settle_self] at there
        rw [settle_other two] at also
        cases there
        exact absurd samePhone.symm (apart_ also)
    · by_cases two : second = tid
      · subst two
        rw [settle_self] at also
        rw [settle_other one] at there
        cases also
        exact absurd samePhone (apart_ there)
      · rw [settle_other one] at there
        rw [settle_other two] at also
        exact sound.apart first second customer twin there also samePhone
  · intro cold
    rw [settle_hydrated, hot] at cold
    cases cold
  · exact fun other hydrates => absurd hydrates (done other)
  · intro other later outcome there
    exact absurd (there ▸ .selected later outcome) (done other)
  · intro other customer outcome there
    by_cases same : other = tid
    · subst same
      rw [settle_self] at there
      cases there
    · rw [settle_other same] at there
      exact sound.written other customer outcome there
  · exact fun _ _ other stored => grows (sound.loaded hot loaded other stored)

theorem storedPhones_snoc (table : List StoreRow) {customer : SeedCustomer}
    (named : (rowOf customer).customer?.map SeedCustomer.phone = some customer.phone) :
    storedPhones (table ++ [rowOf customer]) = storedPhones table ++ [customer.phone] := by
  simp [storedPhones, named]

/-- A customer gets its row. -/
theorem Sound.insert (sound : s.Sound) {customer : SeedCustomer}
    (here : s.calls tid = .inserting customer) :
    ({ s with table := s.table ++ [rowOf customer] }.settle tid
      (.inserted customer (.ok ()))).Sound := by
  have ⟨absent, known, named⟩ := sound.pending tid customer here
  have snoc := storedPhones_snoc s.table named
  have old {other : Nat} {found : CallPhase}
      (there : ({ s with table := s.table ++ [rowOf customer] }.settle tid
        (.inserted customer (.ok ()))).calls other = found)
      (different : found ≠ .inserted customer (.ok ())) : s.calls other = found ∧ other ≠ tid := by
    by_cases same : other = tid
    · subst same
      rw [settle_self] at there
      exact absurd there.symm different
    · rw [settle_other same] at there
      exact ⟨there, same⟩
  have done (other : Nat) : ¬ (s.calls other).Hydrates := by
    intro hydrates
    exact (sound.loading other hydrates tid).1 customer here
  have hydrates {other : Nat} (there : (({ s with table := s.table ++ [rowOf customer] }.settle tid
      (.inserted customer (.ok ()))).calls other).Hydrates) : False := by
    by_cases same : other = tid
    · subst same
      rw [settle_self] at there
      cases there
    · rw [settle_other same] at there
      exact done other there
  constructor
  · rw [settle_table, snoc]
    exact List.Nodup.append sound.distinct (List.nodup_singleton _)
      (List.disjoint_singleton.mpr absent)
  · intro other waiting there
    have ⟨before, different⟩ := old there nofun
    have ⟨missing, mapped, called⟩ := sound.pending other waiting before
    refine ⟨?_, mapped, called⟩
    rw [settle_table, snoc, List.mem_append, List.mem_singleton]
    rintro (stored | same)
    · exact missing stored
    · exact different (sound.apart other tid waiting customer before here same)
  · intro first second waiting twin there also
    exact sound.apart first second waiting twin (old there nofun).1 (old also nofun).1
  · intro cold
    rcases sound.cold cold tid with wrong | ⟨later, wrong⟩ <;> rw [here] at wrong <;> cases wrong
  · exact fun other there => (hydrates there).elim
  · intro other later outcome there
    by_cases same : other = tid
    · subst same
      rw [settle_self] at there
      cases there
    · rw [settle_other same] at there
      exact absurd (there ▸ .selected later outcome) (done other)
  · intro other waiting outcome there
    by_cases same : other = tid
    · subst same
      rw [settle_self] at there
      cases there
      exact ⟨rfl, List.mem_append_right _ (List.mem_singleton_self _)⟩
    · rw [settle_other same] at there
      have ⟨applied, member⟩ := sound.written other waiting outcome there
      exact ⟨applied, List.mem_append_left _ member⟩
  · intro hot _ phone stored
    rw [settle_table, snoc, List.mem_append, List.mem_singleton] at stored
    rcases stored with before | rfl
    · exact sound.loaded hot done phone before
    · exact known

theorem sound_started {table : List StoreRow} (distinct : (storedPhones table).Nodup) :
    (started table).Sound := by
  constructor
  · exact distinct
  · exact nofun
  · exact nofun
  · exact fun _ _ => Or.inl rfl
  · exact nofun
  · exact nofun
  · exact nofun
  · exact nofun

theorem idle_passed (call : CustomerCall) : Idle (.passed call) := ⟨nofun, nofun, nofun⟩

theorem idle_ended (answer : Except Exn CustomerAnswer) : Idle (.ended answer) :=
  ⟨nofun, nofun, nofun⟩

/-- Past its first turn, the process has begun to hydrate. -/
theorem Sound.hot (sound : s.Sound) (tid : Nat) (acted : s.calls tid ≠ .absent)
    (turned : ∀ call, s.calls tid ≠ .arrived call) : s.hydrated = true := by
  by_contra cold
  rcases sound.cold (Bool.not_eq_true _ ▸ cold) tid with absent | ⟨call, arrived⟩
  · exact acted absent
  · exact turned call arrived

theorem Sound.turn (sound : s.Sound) (orderly : s.Orderly (.turn tid))
    (stepped : s.turn tid = some next) : next.Sound := by
  unfold DurableClient.turn at stepped
  split at stepped
  · rename_i call here
    have before : ¬ (s.calls tid).Hydrates := by
      rw [here]
      exact nofun
    split at stepped
    · rename_i hot
      cases stepped
      exact sound.quiet (idle_passed call) before (Or.inl hot)
    · rename_i cold
      cases stepped
      exact sound.hydrate (Bool.not_eq_true _ ▸ cold) call
  · rename_i call rows here
    cases stepped
    have rows_ : rows = s.table := Except.ok.inj (sound.fetched tid call _ here)
    subst rows_
    exact sound.load here fun phone stored =>
      contains_foldl_load s.table s.client (Or.inr stored)
  · rename_i call error here
    cases sound.fetched tid call _ here
  · rename_i call here
    cases stepped
    have ⟨loaded, plain⟩ := orderly call here
    have hot : s.hydrated = true := sound.hot tid (here ▸ nofun) (here ▸ nofun)
    have before := loaded tid
    cases call with
    | resolve phone => exact sound.quiet (idle_ended _) before (Or.inl hot)
    | create phone profile =>
        rcases create_cases s.client phone profile with ⟨error, same⟩ | ⟨unknown, result, same⟩
        · simp only [proceed, same]
          exact sound.quiet (idle_ended _) before (Or.inl hot)
        · simp only [proceed, same]
          exact sound.create here loaded plain unknown _
  · rename_i customer here
    cases stepped
    have hot := sound.hot tid (here ▸ nofun) (here ▸ nofun)
    exact sound.quiet (idle_ended _) (here ▸ nofun) (Or.inl hot)
  · rename_i customer error here
    cases (sound.written tid customer _ here).1
  · cases stepped

theorem Sound.step (sound : s.Sound) {action : StoreAction} (orderly : s.Orderly action)
    (stepped : s.step action = some next) : next.Sound := by
  cases action with
  | call tid call =>
      simp only [DurableClient.step] at stepped
      split at stepped
      · rename_i here
        cases stepped
        exact sound.quiet ⟨nofun, nofun, nofun⟩ (here ▸ nofun) (Or.inr (Or.inr ⟨call, rfl⟩))
      · cases stepped
  | turn tid => exact sound.turn orderly stepped
  | select tid failure =>
      cases orderly
      simp only [DurableClient.step] at stepped
      split at stepped
      · rename_i call here
        cases stepped
        exact sound.select here
      · cases stepped
  | insert tid failure =>
      cases orderly
      simp only [DurableClient.step] at stepped
      split at stepped
      · rename_i customer here _
        split at stepped
        · cases stepped
        · cases stepped
          exact sound.insert here
      · rename_i wrong
        cases wrong
      · cases stepped
  | restart =>
      cases stepped
      exact sound_started sound.distinct

theorem OrderlyRun.sound {start : DurableClient} (sound : start.Sound)
    (run : OrderlyRun start s) : s.Sound := by
  induction run with
  | start => exact sound
  | step run action orderly stepped ih => exact ih.step orderly stepped

/-! ### The promise -/

theorem proceed_table (s : DurableClient) (tid : Nat) (call : CustomerCall) :
    (s.proceed tid call).table = s.table := by
  cases call with
  | resolve phone => rfl
  | create phone profile =>
      unfold proceed
      dsimp only
      split <;> rfl

theorem turn_table (stepped : s.turn tid = some next) : next.table = s.table := by
  unfold DurableClient.turn at stepped
  split at stepped
  · split at stepped <;> cases stepped <;> rfl
  · cases stepped
    rfl
  · cases stepped
    rfl
  · cases stepped
    exact proceed_table s tid _
  · cases stepped
    rfl
  · cases stepped
    rfl
  · cases stepped

/-- No row is ever removed. -/
theorem step_grows {action : StoreAction} (stepped : s.step action = some next) :
    s.table <+: next.table := by
  cases action with
  | call tid call =>
      simp only [DurableClient.step] at stepped
      split at stepped
      · cases stepped
        exact List.prefix_refl _
      · cases stepped
  | turn tid => exact turn_table stepped ▸ List.prefix_refl _
  | select tid failure =>
      simp only [DurableClient.step] at stepped
      split at stepped
      · cases stepped
        exact List.prefix_refl _
      · cases stepped
  | insert tid failure =>
      simp only [DurableClient.step] at stepped
      split at stepped
      · split at stepped
        · cases stepped
        · cases stepped
          exact List.prefix_append _ _
      · cases stepped
        rw [settle_table]
        split
        · exact List.prefix_append _ _
        · exact List.prefix_refl _
      · cases stepped
  | restart =>
      cases stepped
      exact List.prefix_refl _

theorem OrderlyRun.grows {start : DurableClient} (run : OrderlyRun start s) :
    start.table <+: s.table := by
  induction run with
  | start => exact List.prefix_refl _
  | step run action orderly stepped ih => exact ih.trans (step_grows stepped)

theorem profile_seed : ∀ known ∈ SEED_CUSTOMERS, (profile known.customerRef).isOk = true := by
  decide +kernel

theorem refs_matching (client : MockCustomerServiceClient) (phone : String) :
    ∀ customerRef ∈ refsOf (client.resolve phone),
      ∃ customer ∈ client.matching phone, customer.customerRef = customerRef := by
  intro customerRef member
  unfold MockCustomerServiceClient.resolve at member
  split at member
  · cases member
  · rename_i customer found
    rw [found]
    exact ⟨customer, List.mem_singleton_self _, (List.mem_singleton.mp member).symm⟩
  · split at member
    · cases member
    · obtain ⟨listed, among, rfl⟩ := List.mem_map.mp member
      obtain ⟨customer, matched, rfl⟩ := List.mem_map.mp among
      exact ⟨customer, matched, rfl⟩

/-- What is found among the seeds only can be read. -/
theorem readable_of_plain {phone : String} (plain : s.Plain (.resolve phone)) :
    ∀ customerRef ∈ refsOf (s.client.resolve phone), (profile customerRef).isOk = true := by
  intro customerRef member
  obtain ⟨customer, matched, rfl⟩ := refs_matching s.client phone customerRef member
  obtain ⟨listed, same⟩ := List.mem_filter.mp matched
  rcases List.mem_append.mp listed with created | seeded
  · obtain ⟨entry, there, rfl⟩ := List.mem_map.mp created
    exact absurd (of_decide_eq_true same) (plain entry there)
  · exact profile_seed customer seeded

theorem Sound.contract (sound : s.Sound) (orderly : s.Orderly (.turn tid))
    (stepped : s.turn tid = some next) : s.Contract next tid := by
  have proceeds {call : CustomerCall} (here : s.calls tid = .passed call) :
      s.proceed tid call = next := by
    simpa only [DurableClient.turn, here, Option.some.injEq] using stepped
  constructor
  · intro phone profile here known
    have hot := sound.hot tid (here ▸ nofun) (here ▸ nofun)
    have same := create_known profile
      (known.imp_left (sound.loaded hot (orderly _ here).1 _))
    rw [← proceeds here]
    simp only [proceed, same, settle_self]
  · intro phone profile error here ended
    rw [← proceeds here] at ended ⊢
    rcases create_cases s.client phone profile with ⟨other, same⟩ | ⟨-, result, same⟩
    · simp only [proceed, same]
      exact ⟨rfl, rfl⟩
    · simp only [proceed, same, settle_self] at ended
      cases ended
  · intro customer error here
    cases (sound.written tid customer _ here).1
  · intro customer here
    rw [turn_table stepped]
    exact (sound.written tid customer _ here).2
  · intro phone result here ended
    rw [← proceeds here] at ended
    simp only [proceed, settle_self, CallPhase.ended.injEq, Except.ok.injEq,
      CustomerAnswer.resolved.injEq] at ended
    subst ended
    exact readable_of_plain (orderly _ here).2

/-- In every orderly run over a table without duplicates the table only grows and stays so, and
each turn of a call keeps the contract. -/
theorem phones_unique (table : List StoreRow) (distinct : (storedPhones table).Nodup)
    (run : OrderlyRun (started table) s) :
    table <+: s.table ∧ (storedPhones s.table).Nodup ∧
      ∀ tid next, s.Orderly (.turn tid) → s.step (.turn tid) = some next → s.Contract next tid := by
  have sound := run.sound (sound_started distinct)
  exact ⟨run.grows, sound.distinct, fun tid next orderly stepped => sound.contract orderly stepped⟩

end Steps

/-! ### A call while the rows are being read -/

def run (s : DurableClient) (actions : List StoreAction) : Option DurableClient :=
  actions.foldlM step s

def newcomer : CreateCustomerRequest where
  fullName := "Trần Mới"
  classification := .sinhHoat
  address := ⟨"1 A", "B", "C", "Đà Nẵng"⟩
  email := none

/-- The one row left by the processes before; the first number was lost with a failed insertion. -/
def storedRow : StoreRow :=
  ⟨"APP-000002", some "REF-NEW-000002", some "123456780", "Trần Mới", some "1 A, C", some ""⟩

/-- A `resolve` has loaded the row, and a `create` for its phone is about to go on. -/
def loadedFirst : DurableClient :=
  ((run (started [storedRow]) [.call 0 (.resolve "+84987654321"), .turn 0, .select 0 none,
    .turn 0, .call 1 (.create "+84123456780" newcomer), .turn 1])).getD (started [])

theorem phones_unique_refused :
    (loadedFirst.proceed 1 (.create "+84123456780" newcomer)).calls 1 = .ended (.error
      (.conflict "A customer for this phone already exists" "CUSTOMER_PHONE_EXISTS"
        (.obj [("phone", .str (normalizePhone "+84123456780"))]))) := by
  have quiet (s : DurableClient) (tid : Nat) {phase : CallPhase} (there : s.calls tid = phase)
      (waiting : ∀ call, phase ≠ .passed call) : s.Orderly (.turn tid) := by
    intro call here
    exact absurd (there.symm.trans here) (waiting call)
  have first : OrderlyRun (started [storedRow]) _ :=
    .step .start (.call 0 (.resolve "+84987654321")) trivial rfl
  have second := OrderlyRun.step first (.turn 0) (quiet _ 0 rfl nofun) rfl
  have third := OrderlyRun.step second (.select 0 none) rfl rfl
  have fourth := OrderlyRun.step third (.turn 0) (quiet _ 0 rfl nofun) rfl
  have fifth := OrderlyRun.step fourth (.call 1 (.create "+84123456780" newcomer)) trivial rfl
  have ran : OrderlyRun (started [storedRow]) loadedFirst :=
    .step fifth (.turn 1) (quiet _ 1 rfl nofun) rfl
  have orderly : loadedFirst.Orderly (.turn 1) := by
    intro call here
    have same : .passed (.create "+84123456780" newcomer) = CallPhase.passed call := here
    cases same
    have digits : normalizePhone "+84123456780" ≠ "" := by decide +kernel
    refine ⟨?_, digits⟩
    rintro (_ | _ | tid) <;> exact nofun
  have contract := (phones_unique [storedRow] (by decide +kernel) ran).2.2 1
    (loadedFirst.proceed 1 (.create "+84123456780" newcomer)) orderly rfl
  exact contract.conflict "+84123456780" newcomer rfl (Or.inl (by decide +kernel))

/-- A `create` passes the `resolve` that waits for the rows. -/
def overtaking : List StoreAction :=
  [.call 0 (.resolve "+84987654321"), .turn 0, .call 1 (.create "+84123456780" newcomer), .turn 1,
    .turn 1, .insert 1 none]

/-- The phone of the table gets a second customer. -/
theorem second_customer :
    ¬ ∀ table, (storedPhones table).Nodup → ∀ actions s, run (started table) actions = some s →
      table <+: s.table ∧ (storedPhones s.table).Nodup ∧
        ∀ tid next, s.step (.turn tid) = some next → s.Contract next tid := by
  intro always
  have unique := (always [storedRow] (by decide +kernel) overtaking _ rfl).2.1
  revert unique
  decide +kernel

end DurableClient

end SelfService
