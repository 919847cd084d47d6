/-
**What a device has not read yet.**

The messages that a device can still get are those in its buffer, the one in hand of its forwarder
and what the hub keeps from its position on. As long as the device does not fall further behind than
the hub keeps, none of them is lost: the forwarder only moves them, and a broadcast adds one at the
end.

* `Stream.forward_cases`: what the forwarder does in one step.
* `Stream.pending_forward`, `Stream.pending_broadcast`, `Stream.pending_take`: what this means for
  the messages that are left.
* `Stream.weight_forward`, `Stream.weight_take`: how many steps are left.
-/

import TimedQuiz.Feed.Station

namespace TimedQuiz.Feed

/-! ### Positions in the hub -/

namespace Hub

variable {hub : Hub Message} {position : Nat} (message : Message)

theorem since_of_oldest_le (near : hub.oldest ≤ position) :
    hub.since position = hub.sent.toList.drop position := by
  rw [since, Nat.max_eq_left near]

theorem since_tail : hub.since hub.tail = [] := by
  have near : hub.oldest ≤ hub.tail := Nat.sub_le ..
  rw [since_of_oldest_le near, tail, ← Array.length_toList, List.drop_length]

/-- A receiver that keeps up gets the messages in their order. -/
theorem since_eq_cons (near : hub.oldest ≤ position) (next : hub.sent[position]? = some message) :
    hub.since position = message :: hub.since (position + 1) := by
  rw [since_of_oldest_le near, since_of_oldest_le (Nat.le_succ_of_le near)]
  rw [← Array.getElem?_toList, List.getElem?_eq_some_iff] at next
  obtain ⟨inside, rfl⟩ := next
  exact List.drop_eq_getElem_cons inside

theorem oldest_broadcast :
    (hub.broadcast message).oldest = hub.sent.size + 1 - hub.capacity :=
  congrArg (· - hub.capacity) (Array.size_push ..)

theorem since_broadcast (near : (hub.broadcast message).oldest ≤ position)
    (placed : position ≤ hub.tail) :
    (hub.broadcast message).since position = hub.since position ++ [message] := by
  have earlier : hub.oldest ≤ position := by
    rw [oldest_broadcast] at near
    rw [oldest]
    omega
  rw [since_of_oldest_le near, since_of_oldest_le earlier, broadcast, Array.toList_push,
    List.drop_append_of_le_length placed]

theorem tail_broadcast : (hub.broadcast message).tail = hub.tail + 1 := Array.size_push ..

end Hub

/-! ### Streams -/

namespace Stream

variable {hub : Hub Message} {stream : Stream}

/-- What the forwarder does in one step: it fills the buffer, waits for room, skips what it has
missed, takes a message from the hub or waits for one. -/
theorem forward_cases (hub : Hub Message) (stream : Stream) :
    (∃ message, stream.held = some message ∧ stream.buffer.length < bufferSize ∧
      stream.forward hub =
        { stream with buffer := stream.buffer ++ [message], held := none }) ∨
    ((∃ message, stream.held = some message) ∧ bufferSize ≤ stream.buffer.length ∧
      stream.forward hub = stream) ∨
    (stream.held = none ∧ stream.position < hub.oldest ∧
      stream.forward hub = { stream with position := hub.oldest }) ∨
    (∃ message, stream.held = none ∧ hub.oldest ≤ stream.position ∧
      hub.sent[stream.position]? = some message ∧
      stream.forward hub =
        { stream with position := stream.position + 1, held := some message }) ∨
    (stream.held = none ∧ hub.oldest ≤ stream.position ∧ hub.tail ≤ stream.position ∧
      stream.forward hub = stream) := by
  obtain ⟨position, buffer, held, lastDelivery⟩ := stream
  cases held with
  | some message =>
    by_cases room : buffer.length < bufferSize
    · exact .inl ⟨message, rfl, room, if_pos room⟩
    · exact .inr (.inl ⟨⟨message, rfl⟩, Nat.not_lt.mp room, if_neg room⟩)
  | none =>
    by_cases behind : position < hub.oldest
    · refine .inr (.inr (.inl ⟨rfl, behind, ?_⟩))
      rw [forward, Hub.receive, if_pos behind]
    · have near := Nat.not_lt.mp behind
      cases next : hub.sent[position]? with
      | some message =>
        refine .inr (.inr (.inr (.inl ⟨message, rfl, near, rfl, ?_⟩)))
        rw [forward, Hub.receive, if_neg behind]
        simp only [next]
      | none =>
        refine .inr (.inr (.inr (.inr ⟨rfl, near, Array.getElem?_eq_none_iff.mp next, ?_⟩)))
        rw [forward, Hub.receive, if_neg behind]
        simp only [next]

/-- The forwarder does not go back, and not beyond the last message. -/
theorem position_forward (placed : stream.position ≤ hub.tail) :
    stream.position ≤ (stream.forward hub).position ∧
      (stream.forward hub).position ≤ hub.tail := by
  obtain ⟨_, -, -, same⟩ | ⟨-, -, same⟩ | ⟨-, behind, same⟩ | ⟨_, -, -, next, same⟩ |
    ⟨-, -, -, same⟩ := forward_cases hub stream <;> rw [same]
  · exact ⟨Nat.le_refl _, placed⟩
  · exact ⟨Nat.le_refl _, placed⟩
  · exact ⟨Nat.le_of_lt behind, Nat.sub_le ..⟩
  · exact ⟨Nat.le_succ _, (Array.getElem?_eq_some_iff.mp next).1⟩
  · exact ⟨Nat.le_refl _, placed⟩

/-- **The forwarder loses nothing of a device that keeps up.** -/
theorem pending_forward (near : hub.oldest ≤ stream.position) :
    (stream.forward hub).pending hub = stream.pending hub := by
  obtain ⟨message, held, -, same⟩ | ⟨-, -, same⟩ | ⟨-, behind, -⟩ | ⟨message, free, -, next, same⟩ |
    ⟨-, -, -, same⟩ := forward_cases hub stream
  · rw [same, pending, pending, held]
    simp only [Option.toList_some, Option.toList_none, List.append_nil]
  · rw [same]
  · exact absurd near (Nat.not_le.mpr behind)
  · rw [same, pending, pending, free, Hub.since_eq_cons message near next]
    simp only [Option.toList_some, Option.toList_none, List.append_nil, List.append_assoc,
      List.singleton_append]
  · rw [same]

/-- A message that is broadcast comes last. -/
theorem pending_broadcast {message : Message}
    (near : (hub.broadcast message).oldest ≤ stream.position)
    (placed : stream.position ≤ hub.tail) :
    stream.pending (hub.broadcast message) = stream.pending hub ++ [message] := by
  rw [pending, Hub.since_broadcast message near placed, ← List.append_assoc, pending]

/-- What the device reads is taken off the front. -/
theorem pending_take (hub : Hub Message) (stream : Stream) :
    stream.take.1.toList ++ stream.take.2.pending hub = stream.pending hub := by
  rw [take]
  cases buffer : stream.buffer with
  | nil => rfl
  | cons message rest =>
    rw [pending, pending, buffer]
    rfl

/-! ### A device that goes on reading -/

/-- The steps that are left until the device has read everything. -/
def weight (hub : Hub Message) (stream : Stream) : Nat :=
  3 * (hub.since stream.position).length + 2 * stream.held.toList.length + stream.buffer.length

/-- The forwarder makes no steps that are not needed, and one when the buffer is empty while
something is left. -/
theorem weight_forward (near : hub.oldest ≤ stream.position) :
    (stream.forward hub).weight hub ≤ stream.weight hub ∧
      ((stream.forward hub).buffer = [] → stream.pending hub ≠ [] →
        (stream.forward hub).weight hub < stream.weight hub) := by
  obtain ⟨message, held, -, same⟩ | ⟨-, full, same⟩ | ⟨-, behind, -⟩ |
    ⟨message, free, -, next, same⟩ | ⟨free, -, last, same⟩ := forward_cases hub stream
  · have less : (stream.forward hub).weight hub < stream.weight hub := by
      rw [same, weight, weight, held, List.length_append]
      simp only [Option.toList_some, Option.toList_none, List.length_singleton, List.length_nil]
      omega
    exact ⟨Nat.le_of_lt less, fun _ _ => less⟩
  · rw [same]
    refine ⟨Nat.le_refl _, fun empty => ?_⟩
    rw [empty] at full
    exact absurd full (by decide)
  · exact absurd near (Nat.not_le.mpr behind)
  · have less : (stream.forward hub).weight hub < stream.weight hub := by
      rw [same, weight, weight, free, Hub.since_eq_cons message near next, List.length_cons]
      simp only [Option.toList_some, Option.toList_none, List.length_singleton, List.length_nil]
      omega
    exact ⟨Nat.le_of_lt less, fun _ _ => less⟩
  · rw [same]
    refine ⟨Nat.le_refl _, fun empty left => absurd ?_ left⟩
    rw [pending, empty, free, Hub.since_of_oldest_le near, List.drop_of_length_le last]
    rfl

/-- Reading takes one step, if there is something in the buffer. -/
theorem weight_take (hub : Hub Message) (stream : Stream) :
    stream.take.2.weight hub + min 1 stream.buffer.length = stream.weight hub := by
  obtain ⟨position, buffer, held, lastDelivery⟩ := stream
  cases buffer with
  | nil => rfl
  | cons message rest =>
    simp only [weight, take, List.length_cons]
    omega

end Stream
end TimedQuiz.Feed
