/-
**The hub of the live feed.**

A hub passes every message to all receivers that subscribed before it was sent. It keeps only the
latest messages, a power of two of them: a receiver that has fallen further behind is told once how
many messages it has lost and goes on with the oldest one kept.
-/

namespace TimedQuiz.Feed

/-- The messages sent through a hub so far, and how many of them it keeps. -/
structure Hub (α : Type) where
  capacity : Nat
  sent : Array α := #[]

/-- What a receiver gets when it asks for the next message. -/
inductive Reception (α : Type)
  | message (value : α)
  | empty
  /-- So many messages were lost. -/
  | lagged (count : Nat)

namespace Hub

variable {α : Type}

/-- A hub that keeps at least the given number of messages. -/
def ofCapacity (capacity : Nat) : Hub α := { capacity := capacity.nextPowerOfTwo }

/-- Sends a message to all receivers. -/
def broadcast (hub : Hub α) (value : α) : Hub α := { hub with sent := hub.sent.push value }

/-- The position of the next message to be sent, where a new receiver starts. -/
def tail (hub : Hub α) : Nat := hub.sent.size

/-- The position of the oldest message kept. -/
def oldest (hub : Hub α) : Nat := hub.sent.size - hub.capacity

/-- The next message for a receiver at a position, and its position afterwards. -/
def receive (hub : Hub α) (position : Nat) : Reception α × Nat :=
  if position < hub.oldest then (.lagged (hub.oldest - position), hub.oldest)
  else
    match hub.sent[position]? with
    | some value => (.message value, position + 1)
    | none => (.empty, position)

/-- The messages that a receiver at a position can still get, in order. -/
def since (hub : Hub α) (position : Nat) : List α :=
  hub.sent.toList.drop (max position hub.oldest)

end Hub
end TimedQuiz.Feed
