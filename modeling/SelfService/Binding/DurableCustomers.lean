/-
Customers that outlive the process.

The mock client keeps what it creates in a map and writes it to a table.  The first
call of a process reads the table, behind a flag that is set before the rows are
there; the map takes a customer before the table does.
-/

import SelfService.Binding.MockCustomerServiceClient

namespace SelfService

open Data

namespace MockCustomerServiceClient

/-! ### The table -/

/-- A row of `mock_customer_store`; the profile mock leaves the reference empty. -/
structure StoreRow where
  customerId : String
  customerRef : Option String
  phone : Option String
  fullName : String
  addressPrefix : Option String
  lastInvoiceAmount : Option String

/-- The customer that is hydrated from a row, if it is not one of the profile mock. -/
def StoreRow.customer? (row : StoreRow) : Option SeedCustomer :=
  match row.customerRef, row.phone with
  | some customerRef, some phone =>
      if customerRef = "" ∨ phone = "" then none
      else some {
        customerRef := customerRef
        fullName := row.fullName
        phone := phone
        customerId := row.customerId
        lastInvoiceAmount := row.lastInvoiceAmount.getD ""
        addressPrefix := row.addressPrefix.getD "" }
  | _, _ => none

def rowOf (customer : SeedCustomer) : StoreRow where
  customerId := customer.customerId
  customerRef := some customer.customerRef
  phone := some customer.phone
  fullName := customer.fullName
  addressPrefix := some customer.addressPrefix
  lastInvoiceAmount := some ""

/-- The number in `REF-NEW-` and six digits. -/
def numberOf (customerRef : String) : Option Nat :=
  let digits := customerRef.toList.drop 8
  if "REF-NEW-".toList <+: customerRef.toList ∧ digits.length = 6 ∧ digits.all Char.isDigit = true
  then (String.ofList digits).toNat?
  else none

def load (client : MockCustomerServiceClient) (row : StoreRow) : MockCustomerServiceClient :=
  match row.customer? with
  | none => client
  | some customer =>
      { createdCustomers := client.createdCustomers.set customer.phone customer
        createdCustomerCounter :=
          max client.createdCustomerCounter ((numberOf customer.customerRef).getD 0) }

def storedPhones (table : List StoreRow) : List String :=
  table.filterMap fun row => row.customer?.map SeedCustomer.phone

end MockCustomerServiceClient

open MockCustomerServiceClient

/-! ### Calls and their turns -/

inductive CustomerCall : Type
  | resolve (phone : String)
  | create (phone : String) (profile : CreateCustomerRequest)

inductive CustomerAnswer : Type
  | resolved (result : ResolveResult)
  | created (result : CreateCustomerResult)

inductive CallPhase : Type
  | absent
  | arrived (call : CustomerCall)
  | hydrating (call : CustomerCall)
  | selected (call : CustomerCall) (outcome : Except Exn (List StoreRow))
  | passed (call : CustomerCall)
  | inserting (customer : SeedCustomer)
  | inserted (customer : SeedCustomer) (outcome : Except Exn Unit)
  | ended (answer : Except Exn CustomerAnswer)

/-- The call is on its way to load the rows. -/
inductive CallPhase.Hydrates : CallPhase → Prop
  | hydrating (call : CustomerCall) : Hydrates (.hydrating call)
  | selected (call : CustomerCall) (outcome : Except Exn (List StoreRow)) :
      Hydrates (.selected call outcome)

/-- The client of one process, its calls, and the table all processes share. -/
structure DurableClient where
  client : MockCustomerServiceClient
  hydrated : Bool
  calls : Nat → CallPhase
  table : List StoreRow

namespace DurableClient

def started (table : List StoreRow) : DurableClient := ⟨.empty, false, fun _ => .absent, table⟩

def settle (s : DurableClient) (tid : Nat) (phase : CallPhase) : DurableClient :=
  { s with calls := Function.update s.calls tid phase }

/-- What follows `ensureHydrated`, up to the insertion. -/
def proceed (s : DurableClient) (tid : Nat) : CustomerCall → DurableClient
  | .resolve phone => s.settle tid (.ended (.ok (.resolved (s.client.resolve phone))))
  | .create phone profile =>
      match s.client.create phone profile with
      | (.error error, client) => { s with client := client }.settle tid (.ended (.error error))
      | (.ok _, client) =>
          { s with client := client }.settle tid (.inserting
            (newCustomer client.createdCustomerCounter (normalizePhone phone) profile))

def turn (s : DurableClient) (tid : Nat) : Option DurableClient :=
  match s.calls tid with
  | .arrived call =>
      if s.hydrated then some (s.settle tid (.passed call))
      else some ({ s with hydrated := true }.settle tid (.hydrating call))
  | .selected call (.ok rows) =>
      some ({ s with client := rows.foldl load s.client }.settle tid (.passed call))
  | .selected _ (.error error) => some (s.settle tid (.ended (.error error)))
  | .passed call => some (s.proceed tid call)
  | .inserted customer (.ok _) =>
      some (s.settle tid (.ended (.ok (.created ⟨customer.customerId, customer.customerRef⟩))))
  | .inserted _ (.error error) => some (s.settle tid (.ended (.error error)))
  | _ => none

def taken (s : DurableClient) (customer : SeedCustomer) : Bool :=
  s.table.any fun row => row.customerId = customer.customerId

inductive StoreAction : Type
  | call (tid : Nat) (call : CustomerCall)
  | turn (tid : Nat)
  | select (tid : Nat) (failure : Option Exn)
  /-- An insertion that fails may have taken effect. -/
  | insert (tid : Nat) (failure : Option (Exn × Bool))
  | restart

def step (s : DurableClient) : StoreAction → Option DurableClient
  | .call tid call =>
      match s.calls tid with
      | .absent => some (s.settle tid (.arrived call))
      | _ => none
  | .turn tid => s.turn tid
  | .select tid failure =>
      match s.calls tid with
      | .hydrating call =>
          some (s.settle tid (.selected call (failure.elim (.ok s.table) .error)))
      | _ => none
  | .insert tid failure =>
      match s.calls tid, failure with
      | .inserting customer, none =>
          if s.taken customer then none
          else some ({ s with table := s.table ++ [rowOf customer] }.settle tid
            (.inserted customer (.ok ())))
      | .inserting customer, some (error, applied) =>
          some ({ s with table := if applied && !s.taken customer then s.table ++ [rowOf customer]
            else s.table }.settle tid (.inserted customer (.error error)))
      | _, _ => none
  | .restart => some (started s.table)

/-! ### What is promised -/

/-- The phone of a seed or of a customer in the table. -/
def Known (s : DurableClient) (phone : String) : Prop :=
  phone ∈ storedPhones s.table ∨ ∃ known ∈ SEED_CUSTOMERS, known.phone = phone

def refsOf (result : ResolveResult) : List String :=
  result.customerRef.toList ++ (result.candidates.getD []).map Candidate.customerRef

/-- What a turn of a call keeps to. -/
structure Contract (s next : DurableClient) (tid : Nat) : Prop where
  conflict : ∀ phone profile, s.calls tid = .passed (.create phone profile) →
    s.Known (normalizePhone phone) → next.calls tid = .ended (.error
      (.conflict "A customer for this phone already exists" "CUSTOMER_PHONE_EXISTS"
        (.obj [("phone", .str (normalizePhone phone))])))
  /-- A rejection on the spot changes nothing. -/
  unchanged : ∀ phone profile error, s.calls tid = .passed (.create phone profile) →
    next.calls tid = .ended (.error error) → next.client = s.client ∧ next.table = s.table
  /-- A later rejection leaves nothing of the customer. -/
  withdrawn : ∀ customer error, s.calls tid = .inserted customer (.error error) →
    next.client.createdCustomers.contains customer.phone = false ∧
      customer.phone ∉ storedPhones next.table
  /-- What is answered to have been created is in the table. -/
  kept : ∀ customer, s.calls tid = .inserted customer (.ok ()) → rowOf customer ∈ next.table
  readable : ∀ phone result, s.calls tid = .passed (.resolve phone) →
    next.calls tid = .ended (.ok (.resolved result)) →
      ∀ customerRef ∈ refsOf result, (profile customerRef).isOk = true

/-! ### Steps that stay clear of the defects -/

/-- Nothing is on its way to be loaded. -/
def Loaded (s : DurableClient) : Prop := ∀ tid, ¬ (s.calls tid).Hydrates

/-- A `resolve` finds none of the created customers, and a `create` is for a phone with digits. -/
def Plain (s : DurableClient) : CustomerCall → Prop
  | .resolve phone =>
      ∀ entry ∈ s.client.createdCustomers.entries, entry.2.phone ≠ normalizePhone phone
  | .create phone _ => normalizePhone phone ≠ ""

/-- No statement fails, and no call goes on while the rows are being loaded. -/
def Orderly (s : DurableClient) : StoreAction → Prop
  | .select _ failure => failure = none
  | .insert _ failure => failure = none
  | .turn tid => ∀ call, s.calls tid = .passed call → s.Loaded ∧ s.Plain call
  | _ => True

inductive OrderlyRun (start : DurableClient) : DurableClient → Prop
  | start : OrderlyRun start start
  | step {s next : DurableClient} (run : OrderlyRun start s) (action : StoreAction)
      (orderly : s.Orderly action) (stepped : s.step action = some next) : OrderlyRun start next

end DurableClient

end SelfService
