/-
The user aggregate.

Registering emits two events, linking a provider emits one, and a new name
emits none.
-/

import SelfService.Domain.AggregateRoot

namespace SelfService

inductive ProviderType
  | phone | zalo | google | facebook | apple
  deriving DecidableEq

def ProviderType.value : ProviderType → String
  | .phone => "phone"
  | .zalo => "zalo"
  | .google => "google"
  | .facebook => "facebook"
  | .apple => "apple"

inductive UserRole
  | customer | admin
  deriving DecidableEq

def UserRole.value : UserRole → String
  | .customer => "customer"
  | .admin => "admin"

inductive UserStatus
  | active | suspended | deleted
  deriving DecidableEq

def UserStatus.value : UserStatus → String
  | .active => "active"
  | .suspended => "suspended"
  | .deleted => "deleted"

/-- The value of an enumeration that has this text. -/
def valueOf {α : Type} (values : List α) (text : α → String) (kind value : String) : Except Exn α :=
  match values.find? fun known => text known = value with
  | some known => .ok known
  | none => .error (.error ("Invalid " ++ kind ++ ": " ++ value))

def UserRole.fromString : String → Except Exn UserRole :=
  valueOf [.customer, .admin] UserRole.value "UserRole"

def UserStatus.fromString : String → Except Exn UserStatus :=
  valueOf [.active, .suspended, .deleted] UserStatus.value "UserStatus"

theorem valueOf_text {α : Type} {values : List α} {text : α → String} (kind : String) {known : α}
    (distinct : ∀ other ∈ values, text other = text known → other = known)
    (listed : known ∈ values) : valueOf values text kind (text known) = .ok known := by
  have found : values.find? (fun other => text other = text known) = some known := by
    cases search : values.find? (fun other => decide (text other = text known)) with
    | none =>
        have missed := List.find?_eq_none.mp search known listed
        simp at missed
    | some other =>
        have same := List.find?_some search
        rw [decide_eq_true_eq] at same
        rw [distinct other (List.mem_of_find?_eq_some search) same]
  rw [valueOf, found]

/-- A stored role or status is read back. -/
theorem UserRole.fromString_value (role : UserRole) : UserRole.fromString role.value = .ok role :=
  valueOf_text "UserRole" (by cases role <;> decide) (by cases role <;> decide)

theorem UserStatus.fromString_value (status : UserStatus) :
    UserStatus.fromString status.value = .ok status :=
  valueOf_text "UserStatus" (by cases status <;> decide) (by cases status <;> decide)

structure ProviderLink where
  id : String
  userId : String
  providerType : ProviderType
  providerId : String
  providerEmail : Option String
  isVerified : Bool
  deriving DecidableEq

structure UserState where
  email : Option String
  phone : Option String
  name : String
  role : UserRole
  status : UserStatus
  providers : List ProviderLink
  deriving DecidableEq

abbrev User := AggregateRoot UserState

/-- What one method call draws: random identifiers and the time. -/
structure Draw where
  linkId : String
  eventId : String
  now : Nat

namespace User

open AggregateRoot

def event (draw : Draw) (aggregateId eventType : String) (providerType : ProviderType)
    (providerId : String) : DomainEvent where
  eventId := draw.eventId
  eventType := eventType
  aggregateId := aggregateId
  aggregateType := "User"
  occurredAt := draw.now
  data := .obj [("providerType", .str providerType.value), ("providerId", .str providerId)]

/-- As the source's `ProviderLink.create`. -/
def link (draw : Draw) (userId : String) (providerType : ProviderType) (providerId : String)
    (providerEmail : Option String) : ProviderLink :=
  ⟨draw.linkId, userId, providerType, providerId, providerEmail, false⟩

def duplicateProvider (providerType : ProviderType) (providerId : String) : Exn :=
  .conflict ("Provider with " ++ providerType.value ++ ":" ++ providerId ++ " '" ++ providerId ++
      "' already exists") "DUPLICATE_RESOURCE"
    (.obj [("resourceType", .str "Provider"),
      ("field", .str (providerType.value ++ ":" ++ providerId)), ("value", .str providerId)])

def addProvider (draw : Draw) (providerType : ProviderType) (providerId : String)
    (providerEmail : Option String) (user : User) : Except Exn User :=
  if user.state.providers.any fun known =>
      known.providerType = providerType && known.providerId = providerId then
    .error (duplicateProvider providerType providerId)
  else
    let added := link draw user.id providerType providerId providerEmail
    let linked : User :=
      { user with state := { user.state with providers := user.state.providers ++ [added] } }
    .ok (linked.addDomainEvent (event draw user.id "ProviderLinked" providerType providerId) draw.now)

def hasPhone (user : User) : Bool :=
  user.state.providers.any fun known => known.providerType = .phone

def linkPhone (draw : Draw) (phone : String) (user : User) : Except Exn User :=
  let renumbered : User := { user with state := { user.state with phone := some phone } }
  if hasPhone renumbered then .ok renumbered
  else addProvider draw .phone phone none renumbered

def updateName (name : String) (user : User) : User :=
  { user with state := { user.state with name := name } }

/-- The user that `register` starts from. -/
def unlinked (id : String) (phone email name : Option String) (now : Nat) : User :=
  create id (some 0) none none now
    { email := email
      phone := phone
      name := name.getD ""
      role := .customer
      status := .active
      providers := [] }

def register (id : String) (linking registering : Draw) (phone email name : Option String)
    (providerType : ProviderType) (providerId : String) (providerEmail : Option String) :
    Except Exn User :=
  (addProvider linking providerType providerId providerEmail
    (unlinked id phone email name linking.now)).map
      (addDomainEvent (event registering id "UserRegistered" providerType providerId) registering.now)

/-- A stored user; a role or a status out of range throws. -/
def reconstitute (id : String) (version : Nat) (email phone : Option String)
    (name role status : String) (createdAt updatedAt : Nat) (providers : List ProviderLink) :
    Except Exn User :=
  (UserRole.fromString role).bind fun role =>
    (UserStatus.fromString status).map fun status =>
      create id (some version) (some createdAt) (some updatedAt) updatedAt
        { email := email
          phone := phone
          name := name
          role := role
          status := status
          providers := providers }

/-! ### The methods as changes of the root -/

theorem addProvider_changes {draw : Draw} {providerType : ProviderType} {providerId : String}
    {providerEmail : Option String} {user later : User}
    (added : addProvider draw providerType providerId providerEmail user = .ok later) :
    ∃ changes, later = user.changed changes ∧ bumps changes = 1 := by
  unfold addProvider at added
  split at added
  · cases added
  · cases added
    exact ⟨[.sets fun state => { state with providers := state.providers ++
      [link draw user.id providerType providerId providerEmail] },
      .addsEvent (event draw user.id "ProviderLinked" providerType providerId) draw.now], rfl, rfl⟩

/-- Nothing is a duplicate where no phone is linked. -/
theorem linkPhone_changes {draw : Draw} {phone : String} {user : User} :
    ∃ changes, linkPhone draw phone user = .ok (user.changed changes) ∧
      bumps changes = if hasPhone user then 0 else 1 := by
  have kept : hasPhone { user with state := { user.state with phone := some phone } } =
      hasPhone user := rfl
  unfold linkPhone
  simp only [kept]
  cases linked : hasPhone user with
  | true => exact ⟨[.sets fun state => { state with phone := some phone }], rfl, rfl⟩
  | false =>
      have unlinked : user.state.providers.any (fun known =>
          known.providerType = .phone && known.providerId = phone) = false := by
        rw [List.any_eq_false]
        intro known member
        have other := List.any_eq_false.mp linked known member
        simp only [decide_eq_true_eq] at other
        simp [other]
      rw [if_neg Bool.false_ne_true, if_neg Bool.false_ne_true, addProvider]
      simp only [unlinked]
      exact ⟨[.sets fun state => { state with phone := some phone },
        .sets fun state => { state with providers := state.providers ++
          [link draw user.id .phone phone none] },
        .addsEvent (event draw user.id "ProviderLinked" .phone phone) draw.now], rfl, rfl⟩

theorem updateName_changes (name : String) (user : User) :
    ∃ changes, updateName name user = user.changed changes ∧ bumps changes = 0 :=
  ⟨[.sets fun state => { state with name := name }], rfl, rfl⟩

/-- Registering succeeds and bumps the version twice. -/
theorem register_changes (id : String) (linking registering : Draw) (phone email name : Option String)
    (providerType : ProviderType) (providerId : String) (providerEmail : Option String) :
    ∃ changes, register id linking registering phone email name providerType providerId
        providerEmail = .ok ((unlinked id phone email name linking.now).changed changes) ∧
      bumps changes = 2 :=
  ⟨[.sets fun state => { state with providers := state.providers ++
      [link linking id providerType providerId providerEmail] },
    .addsEvent (event linking id "ProviderLinked" providerType providerId) linking.now,
    .addsEvent (event registering id "UserRegistered" providerType providerId) registering.now],
    rfl, rfl⟩

end User

end SelfService
