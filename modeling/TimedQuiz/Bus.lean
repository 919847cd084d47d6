/-
**The event bus.**

Listeners register for kinds of events under an identity of their own. The registrations of a kind
stay in the order in which they were made; a kind named twice registers twice. An event is passed to
the registrations present for its kind at the moment it is published, whatever a listener changes
meanwhile.
-/

import TimedQuiz.Event

namespace TimedQuiz

/-- One entry in the list of a kind. -/
structure Registration (α : Type) where
  id : Nat
  listener : α
  deriving DecidableEq, Repr

/-- Who listens to which kind of event. -/
structure Bus (α : Type) where
  registrations : Event.Kind → List (Registration α) := fun _ => []
  /-- The identity of the next subscription. -/
  next : Nat := 0

namespace Bus

variable {α : Type}

/-- Registers a listener for some kinds under one fresh identity. -/
def subscribe (bus : Bus α) (kinds : List Event.Kind) (listener : α) : Nat × Bus α :=
  (bus.next,
    { registrations := fun kind =>
        bus.registrations kind ++ List.replicate (kinds.count kind) { id := bus.next, listener }
      next := bus.next + 1 })

/-- Some registration carries the identity. -/
def isRegistered (bus : Bus α) (id : Nat) : Bool :=
  Event.Kind.all.any fun kind => (bus.registrations kind).any fun entry => entry.id == id

/-- Removes every registration of an identity, and tells whether there was one. -/
def unsubscribe (bus : Bus α) (id : Nat) : Bool × Bus α :=
  (bus.isRegistered id,
    { bus with registrations := fun kind =>
        (bus.registrations kind).filter fun entry => entry.id != id })

/-- The registrations that an event published now is passed to, in order. -/
def recipients (bus : Bus α) (event : Event) : List (Registration α) :=
  bus.registrations event.kind

end Bus
end TimedQuiz
