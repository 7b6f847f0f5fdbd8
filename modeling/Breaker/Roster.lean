import Breaker.Event
import Breaker.Text.Labelled
import Breaker.Text.Quoted

/-!
# Roster — who is told of a breaker's events

A roster lists subscriptions in the order they were made.  Each has a number that no other
subscription of the roster ever has, and a filter.  An event goes to the subscriptions whose filter
admits it, in that order.
-/

namespace Breaker

/-- One subscription of a consumer of type `κ`. -/
structure Subscription (κ : Type) where
  id : Nat
  filter : Filter
  consumer : κ
  deriving DecidableEq

/-- The subscriptions at one breaker. -/
structure Roster (κ : Type) where
  members : List (Subscription κ)
  /-- The number of the next subscription. -/
  nextId : Nat

namespace Roster

variable {κ : Type}

/-- Nobody is subscribed. -/
def empty : Roster κ := ⟨[], 0⟩

instance : Inhabited (Roster κ) := ⟨empty⟩

/-- Adds a subscription at the end, under the next number. -/
def subscribe (r : Roster κ) (filter : Filter) (consumer : κ) : Roster κ :=
  ⟨r.members ++ [⟨r.nextId, filter, consumer⟩], r.nextId + 1⟩

/-- Removes the subscription with a number. -/
def unsubscribe (r : Roster κ) (id : Nat) : Roster κ :=
  { r with members := r.members.filter (·.id != id) }

/-- How many subscriptions there are. -/
def count (r : Roster κ) : Nat := r.members.length

/-- The subscriptions that an event goes to. -/
def addressees (r : Roster κ) (event : Event) : List (Subscription κ) :=
  r.members.filter (·.filter.admits event)

/-- The roster of a circuit as text. -/
def describe (r : Roster κ) (circuit : String) : String :=
  Text.record "EventPublisher"
    [("circuit", Text.quoted circuit), ("consumers", toString r.count)]

end Roster

end Breaker
