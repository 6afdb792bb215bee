/-
Two writers of one table of customers.

The binding mock numbers its customers by a counter that it restores from its own rows, the profile
mock by the greatest id of the table.  Both numbers become an id of the same form, the table's
primary key.  No two customers get one id as long as each number that is drawn is unused.
-/

import SelfService.Binding.DurableCustomers

namespace SelfService

open Data MockCustomerServiceClient

namespace CustomerStore

/-! ### Ids -/

def appId (number : Nat) : String := "APP-" ++ padded number

def refId (number : Nat) : String := "REF-NEW-" ++ padded number

/-- Longer numbers are not cut, so the padding loses nothing. -/
theorem padded_injective {first second : Nat} (same : padded first = padded second) :
    first = second := by
  have decoded (count : Nat) : Nat.ofDigitChars 10 (padded count).toList 0 = count := by
    simp [padded, Nat.ofDigitChars_append, Nat.ofDigitChars_replicate_zero,
      Nat.ofDigitChars_ten_toDigits]
  rw [← decoded first, same, decoded second]

theorem appId_injective {first second : Nat} (same : appId first = appId second) :
    first = second :=
  padded_injective ((String.append_right_inj _).mp same)

theorem refId_injective {first second : Nat} (same : refId first = refId second) :
    first = second :=
  padded_injective ((String.append_right_inj _).mp same)

/-! ### The profile mock -/

/-- From `/^APP-\d{6}$/` and `parseInt`. -/
def numberOfId (customerId : String) : Option Nat :=
  let digits := customerId.toList.drop 4
  if "APP-".toList <+: customerId.toList ∧ digits.length = 6 ∧ digits.all Char.isDigit = true
  then some (Nat.ofDigitChars 10 digits 0)
  else none

/-- The first row by descending id. -/
def greatestId : List StoreRow → Option String
  | [] => none
  | row :: rest =>
      match greatestId rest with
      | none => some row.customerId
      | some other => if other < row.customerId then some row.customerId else some other

def nextNumber (table : List StoreRow) : Nat :=
  ((greatestId table).bind numberOfId).getD 0 + 1

/-- The part of a profile request that the row is made of. -/
structure ProfileRequest where
  fullName : String
  phone : Option String

/-- The profile mock leaves the reference empty. -/
def profileRow (customerId : String) (params : ProfileRequest) : StoreRow where
  customerId := customerId
  customerRef := none
  phone := (params.phone.filter fun phone => phone ≠ "").map normalizePhone
  fullName := params.fullName
  addressPrefix := none
  lastInvoiceAmount := some ""

/-! ### The binding mock -/

/-- The phone is that of a created customer or of a seed. -/
def knows (client : MockCustomerServiceClient) (phone : String) : Bool :=
  client.createdCustomers.contains phone || SEED_CUSTOMERS.any fun known => known.phone = phone

theorem create_of_knows {client : MockCustomerServiceClient} {phone : String}
    (profile : CreateCustomerRequest) (known : knows client (normalizePhone phone) = true) :
    ∃ error, client.create phone profile = (.error error, client) := by
  unfold knows at known
  unfold MockCustomerServiceClient.create
  dsimp only
  rw [if_pos known]
  exact ⟨_, rfl⟩

theorem create_of_new {client : MockCustomerServiceClient} {phone : String}
    (profile : CreateCustomerRequest) (new : knows client (normalizePhone phone) = false) :
    ∃ result, client.create phone profile = (.ok result,
      ⟨client.createdCustomers.set (normalizePhone phone)
          (newCustomer (client.createdCustomerCounter + 1) (normalizePhone phone) profile),
        client.createdCustomerCounter + 1⟩) := by
  unfold knows at new
  unfold MockCustomerServiceClient.create
  dsimp only
  rw [if_neg (ne_true_of_eq_false new)]
  exact ⟨_, rfl⟩

/-! ### Calls and their turns -/

inductive StoreCall : Type
  | create (phone : String) (profile : CreateCustomerRequest)
  /-- With the parameters, or what their schema complains about. -/
  | createCustomer (params : Except String ProfileRequest)

inductive StorePhase : Type
  | absent
  | arrived (call : StoreCall)
  | hydrating (phone : String) (profile : CreateCustomerRequest)
  | selected (phone : String) (profile : CreateCustomerRequest) (rows : List StoreRow)
  | passed (phone : String) (profile : CreateCustomerRequest)
  | numbering (params : ProfileRequest)
  | numbered (params : ProfileRequest) (number : Nat)
  | inserting (row : StoreRow)
  /-- Its process has gone, the statement is still on its way. -/
  | orphaned (row : StoreRow)
  | inserted (row : StoreRow)
  | rejected (row : StoreRow)
  | ended

inductive Outcome : Type
  | issued (customerId : String)
  /-- A conflict, and whether the phone is that of a seed or of an earlier `create`. -/
  | refused (error : Exn) (known : Bool)
  | violated (customerId : String)
  | invalid (error : Exn)

/-- The two mocks of one process, the table, and what has happened in all processes: the phones that
`create` drew a number for, and how calls have ended. -/
structure SharedStore where
  client : MockCustomerServiceClient
  hydrated : Bool
  calls : Nat → StorePhase
  table : List StoreRow
  phones : List String
  outcomes : List Outcome

namespace SharedStore

def fresh : SharedStore := ⟨.empty, false, fun _ => .absent, [], [], []⟩

def settle (s : SharedStore) (tid : Nat) (phase : StorePhase) : SharedStore :=
  { s with calls := Function.update s.calls tid phase }

def log (s : SharedStore) (outcome : Outcome) : SharedStore :=
  { s with outcomes := s.outcomes ++ [outcome] }

def isKnown (s : SharedStore) (phone : String) : Bool :=
  s.phones.contains phone || SEED_CUSTOMERS.any fun known => known.phone = phone

/-- What follows `ensureHydrated` in `create`, up to the insertion. -/
def proceed (s : SharedStore) (tid : Nat) (phone : String) (profile : CreateCustomerRequest) :
    SharedStore :=
  match s.client.create phone profile with
  | (.error error, _) =>
      (s.log (.refused error (s.isKnown (normalizePhone phone)))).settle tid .ended
  | (.ok _, client) =>
      { s with client := client, phones := s.phones ++ [normalizePhone phone] }.settle tid
        (.inserting (rowOf
          (newCustomer client.createdCustomerCounter (normalizePhone phone) profile)))

def turn (s : SharedStore) (tid : Nat) : Option SharedStore :=
  match s.calls tid with
  | .arrived (.create phone profile) =>
      if s.hydrated then some (s.settle tid (.passed phone profile))
      else some ({ s with hydrated := true }.settle tid (.hydrating phone profile))
  | .arrived (.createCustomer (.error message)) =>
      some ((s.log (.invalid (.error ("create-customer mock invalid params: " ++ message)))).settle
        tid .ended)
  | .arrived (.createCustomer (.ok params)) => some (s.settle tid (.numbering params))
  | .selected phone profile rows =>
      some ({ s with client := rows.foldl load s.client }.settle tid (.passed phone profile))
  | .passed phone profile => some (s.proceed tid phone profile)
  | .numbered params number =>
      some (s.settle tid (.inserting (profileRow (appId number) params)))
  | .inserted row => some ((s.log (.issued row.customerId)).settle tid .ended)
  | .rejected row => some ((s.log (.violated row.customerId)).settle tid .ended)
  | _ => none

/-- The primary key and the unique index of the references. -/
def violates (s : SharedStore) (row : StoreRow) : Bool :=
  s.table.any fun other => other.customerId = row.customerId ||
    (row.customerRef.isSome && other.customerRef = row.customerRef)

/-- A restart leaves the statements that are on their way. -/
def StorePhase.afterRestart : StorePhase → StorePhase
  | .inserting row | .orphaned row => .orphaned row
  | _ => .absent

inductive StoreAction : Type
  | call (tid : Nat) (call : StoreCall)
  | turn (tid : Nat)
  | select (tid : Nat)
  | insert (tid : Nat)
  /-- A statement without a process does not arrive. -/
  | lose (tid : Nat)
  | restart

def step (s : SharedStore) : StoreAction → Option SharedStore
  | .call tid call =>
      match s.calls tid with
      | .absent => some (s.settle tid (.arrived call))
      | _ => none
  | .turn tid => s.turn tid
  | .select tid =>
      match s.calls tid with
      | .hydrating phone profile => some (s.settle tid (.selected phone profile s.table))
      | .numbering params => some (s.settle tid (.numbered params (nextNumber s.table)))
      | _ => none
  | .insert tid =>
      match s.calls tid with
      | .inserting row =>
          if s.violates row then some (s.settle tid (.rejected row))
          else some ({ s with table := s.table ++ [row] }.settle tid (.inserted row))
      | .orphaned row =>
          if s.violates row then some (s.settle tid .absent)
          else some ({ s with table := s.table ++ [row] }.settle tid .absent)
      | _ => none
  | .lose tid =>
      match s.calls tid with
      | .orphaned _ => some (s.settle tid .absent)
      | _ => none
  | .restart =>
      some { s with
        client := .empty
        hydrated := false
        calls := fun tid => StorePhase.afterRestart (s.calls tid) }

/-! ### What is promised -/

def issuedIds (outcomes : List Outcome) : List String :=
  outcomes.filterMap fun outcome =>
    match outcome with
    | .issued customerId => some customerId
    | _ => none

/-- No constraint was violated, and no new phone refused. -/
def Outcome.Proper : Outcome → Prop
  | .violated _ => False
  | .refused _ known => known = true
  | _ => True

/-- The ids that were issued are distinct, and every `create` for a new phone that has ended has
succeeded. -/
def Promised (s : SharedStore) : Prop :=
  (issuedIds s.outcomes).Nodup ∧ ∀ outcome ∈ s.outcomes, Outcome.Proper outcome

/-! ### Steps that stay clear of the defects -/

def pendingId : StorePhase → Option String
  | .numbered _ number => some (appId number)
  | .inserting row | .orphaned row => some row.customerId
  | _ => none

/-- No customer has the number, and none is about to get it. -/
def Unused (s : SharedStore) (number : Nat) : Prop :=
  (∀ row ∈ s.table, row.customerId ≠ appId number) ∧
    ∀ tid, pendingId (s.calls tid) ≠ some (appId number)

/-- A number that is drawn is unused: the one after the counter, when a `create` goes on, and the
one after the greatest id, when it is selected. -/
def DrawsUnused (s : SharedStore) : StoreAction → Prop
  | .turn tid => ∀ phone profile, s.calls tid = .passed phone profile →
      knows s.client (normalizePhone phone) = false →
        s.Unused (s.client.createdCustomerCounter + 1)
  | .select tid => ∀ params, s.calls tid = .numbering params → s.Unused (nextNumber s.table)
  | _ => True

/-- From the empty table, by steps that draw unused numbers. -/
inductive CarefulRun : SharedStore → Prop
  | fresh : CarefulRun .fresh
  | step {s next : SharedStore} (run : CarefulRun s) (action : StoreAction)
      (unused : s.DrawsUnused action) (stepped : s.step action = some next) : CarefulRun next

end SharedStore

end CustomerStore

end SelfService
