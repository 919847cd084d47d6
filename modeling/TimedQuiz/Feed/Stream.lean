/-
**Streams of the live feed.**

Every device that follows the quiz has a stream of its own. A forwarder takes messages from the hub
and puts them into a small buffer, from which the device reads. When the buffer is full the
forwarder keeps one more message in hand and waits; what the device then misses is dropped by the
hub. A device that has heard nothing for some time is told that the stream still stands.

A stream is opened in two steps: it subscribes to the hub, and then the greeting, which tells how
the application stands at that moment, goes ahead of everything else.
-/

import TimedQuiz.Feed.Hub
import TimedQuiz.Feed.Message
import TimedQuiz.Span

namespace TimedQuiz.Feed

/-- A stream of one device. -/
structure Stream where
  /-- The position in the hub from which the forwarder takes the next message. -/
  position : Nat
  /-- The messages that the device can read at once. -/
  buffer : List Message := []
  /-- The message that the forwarder has in hand while the buffer is full. -/
  held : Option Message := none
  /-- When the device was told something last. -/
  lastDelivery : Span
  deriving DecidableEq, Repr

/-- What a device is told. -/
inductive Delivery
  | message (message : Message)
  /-- The stream still stands. -/
  | keepAlive
  deriving DecidableEq, Repr

namespace Stream

/-- How many messages the buffer holds. -/
def bufferSize : Nat := 8

/-- After how long a silence a device is told that the stream still stands. -/
def keepAliveInterval : Span := Span.ofSeconds 15 0

/-- The text of the comment that tells it. -/
def keepAliveText : String := "keep-alive"

/-! ### Opening -/

/-- A stream that gets what the hub is sent from now on. -/
def subscribe (hub : Hub Message) (now : Span) : Stream :=
  { position := hub.tail, lastDelivery := now }

/-- Greets the device. -/
def greet (stream : Stream) (degraded : Bool) : Stream :=
  { stream with buffer := stream.buffer ++ [.handshake degraded] }

/-! ### Forwarding and reading -/

/-- Lets the forwarder take messages from the hub until the buffer is full and one more is in
hand. -/
def pump (hub : Hub Message) (stream : Stream) : Stream :=
  if stream.held.isSome then stream
  else
    let waiting := hub.since stream.position
    let room := bufferSize - stream.buffer.length
    { stream with
      position := hub.tail - (waiting.drop (room + 1)).length
      buffer := stream.buffer ++ waiting.take room
      held := waiting[room]? }

/-- The messages that the device has not read yet and can still get. -/
def pending (hub : Hub Message) (stream : Stream) : List Message :=
  stream.buffer ++ stream.held.toList ++ hub.since stream.position

/-- Reads everything there is to read at an instant. -/
def read (hub : Hub Message) (now : Span) (stream : Stream) : List Delivery × Stream :=
  match stream.pending hub with
  | [] =>
    if stream.lastDelivery + keepAliveInterval ≤ now then
      ([.keepAlive], { stream with lastDelivery := now })
    else ([], stream)
  | messages =>
    (messages.map .message, { position := hub.tail, lastDelivery := now })

end Stream
end TimedQuiz.Feed
