/-
A user over its whole life.

The links of a user are what its events tell: replaying the `ProviderLinked`
events of the registration and of every later change rebuilds the list of links,
whenever the user was saved and read back in between.
-/

import SelfService.Domain.User

namespace SelfService

open AggregateRoot

namespace User

/-! ### What an event tells -/

/-- The type and the id of a link, as an event names them. -/
def linkKey (link : ProviderLink) : String × String := (link.providerType.value, link.providerId)

/-- The link that an event tells of. -/
def linkTold (event : DomainEvent) : Option (String × String) :=
  if event.eventType = "ProviderLinked" then
    match event.data.field "providerType", event.data.field "providerId" with
    | .str providerType, .str providerId => some (providerType, providerId)
    | _, _ => none
  else none

def isRegistration (event : DomainEvent) : Bool := event.eventType = "UserRegistered"

@[simp] theorem linkTold_linked (draw : Draw) (id : String) (providerType : ProviderType)
    (providerId : String) : linkTold (event draw id "ProviderLinked" providerType providerId) =
      some (providerType.value, providerId) := rfl

@[simp] theorem linkTold_registered (draw : Draw) (id : String) (providerType : ProviderType)
    (providerId : String) :
    linkTold (event draw id "UserRegistered" providerType providerId) = none := rfl

theorem ProviderType.value_injective : Function.Injective ProviderType.value := by
  intro one other same
  cases one <;> cases other <;> first | rfl | exact absurd same (by decide)

/-- The duplicate that `addProvider` looks for is a link with the same key. -/
theorem duplicate_iff (user : User) (providerType : ProviderType) (providerId : String) :
    (user.state.providers.any fun known =>
        known.providerType = providerType && known.providerId = providerId) = true ↔
      (providerType.value, providerId) ∈ user.state.providers.map linkKey := by
  rw [List.any_eq_true, List.mem_map]
  refine exists_congr fun known => and_congr_right fun _ => ?_
  rw [Bool.and_eq_true, decide_eq_true_eq, decide_eq_true_eq, linkKey, Prod.mk.injEq]
  exact and_congr_left fun _ => ⟨congrArg _, fun same => ProviderType.value_injective same⟩

/-! ### One career -/

/-- What is done with a user object. -/
inductive Conduct : Type
  | addProvider (draw : Draw) (providerType : ProviderType) (providerId : String)
      (providerEmail : Option String)
  | linkPhone (draw : Draw) (phone : String)
  | updateName (name : String)
  /-- The events are handed over, and the row is read back. -/
  | saveAndReload

/-- The user, and the events that were handed over when it was saved. -/
structure Career where
  user : User
  saved : List DomainEvent

def Career.events (career : Career) : List DomainEvent := career.saved ++ career.user.getDomainEvents

/-- The row of a user, read back. -/
def reload (user : User) : Except Exn User :=
  reconstitute user.id user.version user.state.email user.state.phone user.state.name
    user.state.role.value user.state.status.value user.createdAt user.updatedAt user.state.providers

def Conduct.apply (user : User) : Conduct → Except Exn User
  | .addProvider draw providerType providerId providerEmail =>
      User.addProvider draw providerType providerId providerEmail user
  | .linkPhone draw phone => User.linkPhone draw phone user
  | .updateName name => .ok (User.updateName name user)
  | .saveAndReload => reload user

/-- A method that throws leaves the user as it was. -/
def Career.step (career : Career) (conduct : Conduct) : Career :=
  match conduct.apply career.user with
  | .error _ => career
  | .ok user =>
      match conduct with
      | .saveAndReload => ⟨user, career.events⟩
      | _ => ⟨user, career.saved⟩

def Career.run (career : Career) (conducts : List Conduct) : Career := conducts.foldl Career.step career

/-- A row keeps the whole user but its events. -/
theorem reload_eq (user : User) : reload user = .ok user.clearDomainEvents := by
  rw [reload, reconstitute, UserRole.fromString_value, UserStatus.fromString_value]
  rfl

/-! ### What the events account for -/

/-- The user is what it was at the start and what was said since. -/
structure Explains (start user : User) (said : List DomainEvent) : Prop where
  id : user.id = start.id
  links : user.state.providers.map linkKey =
    start.state.providers.map linkKey ++ said.filterMap linkTold
  distinct : (start.state.providers.map linkKey).Nodup → (user.state.providers.map linkKey).Nodup
  own : (∀ link ∈ start.state.providers, link.userId = start.id) →
    ∀ link ∈ user.state.providers, link.userId = start.id
  version : user.version = start.version + said.length
  about : ∀ event ∈ said, event.aggregateId = start.id
  standing : user.state.role = start.state.role ∧ user.state.status = start.state.status

theorem Explains.refl (user : User) : Explains user user [] where
  id := rfl
  links := (List.append_nil _).symm
  distinct := fun distinct => distinct
  own := fun own => own
  version := rfl
  about _ member := absurd member List.not_mem_nil
  standing := ⟨rfl, rfl⟩

variable {start user later : User} {said : List DomainEvent}

/-- A provider that is linked is told of by the one event that is added. -/
theorem Explains.addProvider (explains : Explains start user said) {draw : Draw}
    {providerType : ProviderType} {providerId : String} {providerEmail : Option String}
    (added : User.addProvider draw providerType providerId providerEmail user = .ok later) :
    ∃ told, later.getDomainEvents = user.getDomainEvents ++ [told] ∧ isRegistration told = false ∧
      Explains start later (said ++ [told]) := by
  unfold User.addProvider at added
  split at added
  · cases added
  · rename_i fresh
    cases added
    refine ⟨event draw user.id "ProviderLinked" providerType providerId, rfl, rfl, ?_⟩
    have keys : (user.state.providers ++
          [link draw user.id providerType providerId providerEmail]).map linkKey =
        user.state.providers.map linkKey ++ [(providerType.value, providerId)] := by
      rw [List.map_append]
      rfl
    constructor
    · exact explains.id
    · refine keys.trans ?_
      rw [explains.links, List.filterMap_append, List.append_assoc]
      rfl
    · intro distinct
      refine keys ▸ List.nodup_append.mpr ⟨explains.distinct distinct, by simp, ?_⟩
      intro one known other new same
      rw [List.mem_singleton.mp new] at same
      exact fresh ((duplicate_iff user providerType providerId).mpr (same ▸ known))
    · intro own known member
      rcases List.mem_append.mp member with old | new
      · exact explains.own own known old
      · rw [List.mem_singleton.mp new]
        exact explains.id
    · have version := explains.version
      change user.version + 1 = _
      rw [List.length_append, List.length_singleton]
      omega
    · intro other member
      rcases List.mem_append.mp member with old | new
      · exact explains.about other old
      · rw [List.mem_singleton.mp new]
        exact explains.id
    · exact explains.standing

/-- What changes neither links nor events. -/
theorem Explains.restate (explains : Explains start user said) (id : later.id = user.id)
    (providers : later.state.providers = user.state.providers) (version : later.version = user.version)
    (standing : later.state.role = user.state.role ∧ later.state.status = user.state.status) :
    Explains start later said where
  id := id.trans explains.id
  links := providers ▸ explains.links
  distinct := providers ▸ explains.distinct
  own := providers ▸ explains.own
  version := version.trans explains.version
  about := explains.about
  standing := ⟨standing.1.trans explains.standing.1, standing.2.trans explains.standing.2⟩

/-- The later user has more events to hand over, and they account for what is new. -/
def Continues (start user : User) (said : List DomainEvent) (later : User) : Prop :=
  ∃ told, later.getDomainEvents = user.getDomainEvents ++ told ∧
    (∀ event ∈ told, isRegistration event = false) ∧ Explains start later (said ++ told)

/-- A method that does not throw adds the events that account for it. -/
theorem Explains.conduct (explains : Explains start user said) {conduct : Conduct}
    (done : conduct.apply user = .ok later) (kept : conduct ≠ .saveAndReload) :
    Continues start user said later := by
  have linked (current : User) (same : current.getDomainEvents = user.getDomainEvents)
      (stands : Explains start current said) {draw : Draw} {providerType : ProviderType}
      {providerId : String} {providerEmail : Option String}
      (added : User.addProvider draw providerType providerId providerEmail current = .ok later) :
      Continues start user said later := by
    obtain ⟨told, events, plain, after⟩ := stands.addProvider added
    refine ⟨[told], same ▸ events, ?_, after⟩
    intro event member
    rw [List.mem_singleton.mp member]
    exact plain
  have silent (events : later.getDomainEvents = user.getDomainEvents)
      (after : Explains start later said) : Continues start user said later :=
    ⟨[], by rw [events, List.append_nil], fun _ member => absurd member List.not_mem_nil,
      by rw [List.append_nil]; exact after⟩
  cases conduct with
  | addProvider draw providerType providerId providerEmail => exact linked user rfl explains done
  | linkPhone draw phone =>
      let current : User := { user with state := { user.state with phone := some phone } }
      have renumbered : Explains start current said := explains.restate rfl rfl rfl ⟨rfl, rfl⟩
      change User.linkPhone draw phone user = .ok later at done
      unfold User.linkPhone at done
      simp only at done
      split at done
      · cases done
        exact silent rfl renumbered
      · exact linked current rfl renumbered done
  | updateName name =>
      cases done
      exact silent rfl (explains.restate rfl rfl rfl ⟨rfl, rfl⟩)
  | saveAndReload => exact absurd rfl kept

/-- Events that only add to what was said before, none of them a registration. -/
def Grows (early late : List DomainEvent) : Prop :=
  ∃ told, late = early ++ told ∧ ∀ event ∈ told, isRegistration event = false

theorem Grows.refl (events : List DomainEvent) : Grows events events :=
  ⟨[], (List.append_nil events).symm, fun _ member => absurd member List.not_mem_nil⟩

theorem Grows.trans {early middle late : List DomainEvent} (first : Grows early middle)
    (second : Grows middle late) : Grows early late := by
  obtain ⟨told, rfl, plain⟩ := first
  obtain ⟨more, rfl, alsoPlain⟩ := second
  refine ⟨told ++ more, List.append_assoc _ _ _, fun event member => ?_⟩
  exact (List.mem_append.mp member).elim (plain event) (alsoPlain event)

theorem Grows.registrations {early late : List DomainEvent} (grows : Grows early late) :
    late.countP isRegistration = early.countP isRegistration := by
  obtain ⟨told, rfl, plain⟩ := grows
  rw [List.countP_append, List.countP_eq_zero.mpr fun event member =>
    Bool.eq_false_iff.mp (plain event member), Nat.add_zero]

/-- What is done next is explains for by what is said next. -/
theorem Explains.step {career : Career} (explains : Explains start career.user career.events)
    (conduct : Conduct) : Explains start (career.step conduct).user (career.step conduct).events ∧
      Grows career.events (career.step conduct).events := by
  unfold Career.step
  cases done : conduct.apply career.user with
  | error error => exact ⟨explains, .refl _⟩
  | ok later =>
      have changed (kept : conduct ≠ .saveAndReload) :
          Explains start later (career.saved ++ later.getDomainEvents) ∧
            Grows career.events (career.saved ++ later.getDomainEvents) := by
        obtain ⟨told, events, plain, after⟩ := explains.conduct done kept
        have grown : career.saved ++ later.getDomainEvents = career.events ++ told := by
          rw [events, Career.events, List.append_assoc]
        rw [grown]
        exact ⟨after, told, rfl, plain⟩
      cases conduct with
      | addProvider draw providerType providerId providerEmail => exact changed Conduct.noConfusion
      | linkPhone draw phone => exact changed Conduct.noConfusion
      | updateName name => exact changed Conduct.noConfusion
      | saveAndReload =>
          rw [show Conduct.saveAndReload.apply career.user = reload career.user from rfl, reload_eq] at done
          cases done
          have same : (⟨career.user.clearDomainEvents, career.events⟩ : Career).events = career.events :=
            List.append_nil _
          simp only [same]
          exact ⟨explains.restate rfl rfl rfl ⟨rfl, rfl⟩, .refl _⟩

theorem Explains.run (career : Career) (explains : Explains start career.user career.events)
    (conducts : List Conduct) :
    Explains start (career.run conducts).user (career.run conducts).events ∧
      Grows career.events (career.run conducts).events := by
  induction conducts generalizing career with
  | nil => exact ⟨explains, .refl _⟩
  | cons conduct rest ih =>
      obtain ⟨stepped, grows⟩ := explains.step conduct
      obtain ⟨ends, later⟩ := ih (career.step conduct) stepped
      exact ⟨ends, grows.trans later⟩

/-- Whatever is done with a user after its registration, and however often it is saved and read
back, its events tell its links, which are its own and all different. -/
theorem links_replayed (id : String) (linking registering : Draw) (phone email name : Option String)
    (providerType : ProviderType) (providerId : String) (providerEmail : Option String)
    (conducts : List Conduct) :
    ∃ registered, register id linking registering phone email name providerType providerId
        providerEmail = .ok registered ∧
      let career := (⟨registered, []⟩ : Career).run conducts
      let links := career.user.state.providers
      links.map linkKey = career.events.filterMap linkTold ∧ (links.map linkKey).Nodup ∧ links ≠ [] ∧
        (∀ link ∈ links, link.userId = id) ∧ career.user.version = career.events.length ∧
        career.events.countP isRegistration = 1 ∧
        (∀ event ∈ career.events, event.aggregateId = id) ∧
        career.user.state.role = .customer ∧ career.user.state.status = .active := by
  let start := unlinked id phone email name linking.now
  let registered : User := (start.changed [.sets fun state => { state with
      providers := state.providers ++ [link linking id providerType providerId providerEmail] },
    .addsEvent (event linking id "ProviderLinked" providerType providerId) linking.now,
    .addsEvent (event registering id "UserRegistered" providerType providerId) registering.now])
  refine ⟨registered, rfl, ?_⟩
  have begun : Explains start registered (⟨registered, []⟩ : Career).events := by
    constructor
    · rfl
    · rfl
    · exact fun _ => List.nodup_cons.mpr ⟨List.not_mem_nil, List.nodup_nil⟩
    · intro _ known member
      rw [List.mem_singleton.mp member]
      rfl
    · rfl
    · intro told member
      rcases List.mem_cons.mp member with rfl | member
      · rfl
      · rw [List.mem_singleton.mp member]
        rfl
    · exact ⟨rfl, rfl⟩
  obtain ⟨ends, grows⟩ := Explains.run ⟨registered, []⟩ begun conducts
  have once := grows.registrations
  generalize (⟨registered, []⟩ : Career).run conducts = career at ends grows once
  refine ⟨ends.links, ends.distinct List.nodup_nil, ?_, ends.own fun _ => (absurd · List.not_mem_nil),
    ends.version.trans (Nat.zero_add _), once, ends.about, ends.standing⟩
  -- the first link is never taken away
  intro none
  obtain ⟨told, events, -⟩ := grows
  have links := ends.links
  rw [none, events, List.filterMap_append] at links
  exact List.cons_ne_nil _ _ links.symm

end User

end SelfService
