/-
**Devices that connect while the mode changes.**

The flag of degraded mode and the hub are shared by all devices. A device connects in two steps: it
subscribes to the hub, and then it is greeted with the flag as it stands. The flag changes in two
steps: it is set, and then the change is broadcast. Forwarders and devices go on one message at a
time. These steps come in any order, except that a change is broadcast before the next one is made.
-/

import TimedQuiz.Feed.Stream

namespace TimedQuiz.Feed

namespace Stream

/-- The forwarder goes on by one step. What it has in hand it puts into the buffer as soon as there
is room; with nothing in hand it takes the next message from the hub. -/
def forward (hub : Hub Message) (stream : Stream) : Stream :=
  match stream.held with
  | some message =>
    if stream.buffer.length < bufferSize then
      { stream with buffer := stream.buffer ++ [message], held := none }
    else stream
  | none =>
    match hub.receive stream.position with
    | (.message message, position) => { stream with position, held := some message }
    | (_, position) => { stream with position }

/-- The device takes one message out of the buffer. -/
def take (stream : Stream) : Option Message × Stream :=
  match stream.buffer with
  | [] => (none, stream)
  | message :: rest => (some message, { stream with buffer := rest })

end Stream

/-- A device that has subscribed to the hub. -/
structure Listener where
  stream : Stream
  /-- The device has been greeted, and its forwarder works. -/
  greeted : Bool := false
  /-- What the device has been told, in order. -/
  received : List Message := []
  deriving DecidableEq, Repr

namespace Listener

/-- Greets the device with the flag. -/
def greet (degraded : Bool) (listener : Listener) : Listener :=
  if listener.greeted then listener
  else { listener with stream := listener.stream.greet degraded, greeted := true }

/-- The forwarder of the device goes on by one step. -/
def forward (hub : Hub Message) (listener : Listener) : Listener :=
  if listener.greeted then { listener with stream := listener.stream.forward hub } else listener

/-- The device reads one message, if there is one. -/
def read (listener : Listener) : Listener :=
  let (message, stream) := listener.stream.take
  { listener with stream, received := listener.received ++ message.toList }

end Listener

/-- The flag, the hub and the devices. -/
structure Station where
  degraded : Bool
  /-- The value that the flag has been set to and that is not broadcast yet. -/
  unsaid : Option Bool := none
  hub : Hub Message
  /-- The devices in the order in which they subscribed. -/
  listeners : List Listener := []

namespace Station

/-- What happens next; devices are told apart by their places. -/
inductive Step
  | subscribe (now : Span)
  | greet (place : Nat)
  | forward (place : Nat)
  | read (place : Nat)
  /-- The flag is set. -/
  | change (value : Bool)
  /-- The change is broadcast. -/
  | report
  /-- An event of the quiz is broadcast. -/
  | event (wall : Timestamp) (event : Event)
  /-- A sound is broadcast. -/
  | cue (cue : Cue)
  deriving DecidableEq, Repr

/-- Something happens to the device at a place. -/
def modify (station : Station) (place : Nat) (change : Listener → Listener) : Station :=
  { station with listeners := station.listeners.modify place change }

/-- Sends a message to every device. -/
def broadcast (station : Station) (message : Message) : Station :=
  { station with hub := station.hub.broadcast message }

/-- Carries out one step. A flag that has the value already stays as it is, and while a change is
not broadcast no other is made. -/
def step (station : Station) : Step → Station
  | .subscribe now =>
    { station with
      listeners := station.listeners ++ [{ stream := .subscribe station.hub now }] }
  | .greet place => station.modify place (.greet station.degraded)
  | .forward place => station.modify place (.forward station.hub)
  | .read place => station.modify place .read
  | .change value =>
    if station.unsaid = none ∧ station.degraded ≠ value then
      { station with degraded := value, unsaid := some value }
    else station
  | .report =>
    match station.unsaid with
    | some value => { station with unsaid := none }.broadcast (.systemStatus value)
    | none => station
  | .event wall event => station.broadcast (.ofEvent wall event)
  | .cue cue => station.broadcast (.ofCue cue)

/-- Carries out steps one after the other. -/
def run (station : Station) (steps : List Step) : Station := steps.foldl step station

end Station
end TimedQuiz.Feed
