/-
Aggregates and their versions.

An aggregate counts its own changes: every domain event it adds and every
`markAsModified` raises its version by one.  What else its methods do leaves
the version alone.
-/

import SelfService.Core.Exceptions

namespace SelfService

structure DomainEvent where
  eventId : String
  eventType : String
  aggregateId : String
  aggregateType : String
  occurredAt : Nat
  data : JsValue
  deriving DecidableEq

/-- The fields of the base class; `state` is what a subclass adds. -/
structure AggregateRoot (α : Type) where
  id : String
  version : Nat
  createdAt : Nat
  updatedAt : Nat
  domainEvents : List DomainEvent
  state : α
  deriving DecidableEq

namespace AggregateRoot

variable {α : Type}

/-- The constructor: what is not passed in is taken from the clock. -/
def create (id : String) (version createdAt updatedAt : Option Nat) (now : Nat) (state : α) :
    AggregateRoot α where
  id := id
  version := version.getD 0
  createdAt := createdAt.getD now
  updatedAt := updatedAt.getD now
  domainEvents := []
  state := state

def markAsUpdated (now : Nat) (root : AggregateRoot α) : AggregateRoot α :=
  { root with updatedAt := now, version := root.version + 1 }

def addDomainEvent (event : DomainEvent) (now : Nat) (root : AggregateRoot α) : AggregateRoot α :=
  markAsUpdated now { root with domainEvents := root.domainEvents ++ [event] }

def markAsModified (now : Nat) (root : AggregateRoot α) : AggregateRoot α := root.markAsUpdated now

def getDomainEvents (root : AggregateRoot α) : List DomainEvent := root.domainEvents

def clearDomainEvents (root : AggregateRoot α) : AggregateRoot α := { root with domainEvents := [] }

/-- What a method of a subclass can do to its root. -/
inductive Change (α : Type) : Type
  | addsEvent (event : DomainEvent) (now : Nat)
  | marksModified (now : Nat)
  | sets (update : α → α)

def change (root : AggregateRoot α) : Change α → AggregateRoot α
  | .addsEvent event now => root.addDomainEvent event now
  | .marksModified now => root.markAsModified now
  | .sets update => { root with state := update root.state }

def changed (root : AggregateRoot α) (changes : List (Change α)) : AggregateRoot α :=
  changes.foldl change root

def Change.bumps : Change α → Bool
  | .addsEvent _ _ | .marksModified _ => true
  | .sets _ => false

/-- How often a sequence of changes raises the version. -/
def bumps (changes : List (Change α)) : Nat := changes.countP Change.bumps

theorem version_change (root : AggregateRoot α) (step : Change α) :
    (root.change step).version = root.version + if step.bumps then 1 else 0 := by
  cases step with
  | addsEvent event now => rfl
  | marksModified now => rfl
  | sets update => rfl

theorem id_change (root : AggregateRoot α) (step : Change α) : (root.change step).id = root.id := by
  cases step with
  | addsEvent event now => rfl
  | marksModified now => rfl
  | sets update => rfl

/-- A sequence of changes raises the version by its bumps. -/
theorem version_changed (root : AggregateRoot α) (changes : List (Change α)) :
    (root.changed changes).version = root.version + bumps changes := by
  induction changes generalizing root with
  | nil => rfl
  | cons step rest ih =>
      have later := ih (root.change step)
      rw [version_change] at later
      rw [changed, List.foldl_cons, ← changed, later, bumps, bumps, List.countP_cons]
      omega

theorem id_changed (root : AggregateRoot α) (changes : List (Change α)) :
    (root.changed changes).id = root.id := by
  induction changes generalizing root with
  | nil => rfl
  | cons step rest ih => exact (ih (root.change step)).trans (root.id_change step)

end AggregateRoot

end SelfService
