/-
**What devices are told about the mode.**

A device is told about degraded mode by its handshake and by the changes that are broadcast. What it
has been told and what it can still get form one line of messages, and the last word in it about
the mode is the flag, unless a change is half done: a change that comes before the handshake is in
the handshake, and a change that comes after it is in the hub, since the device had subscribed
before.

* `Listener.KeepsUp`: a device that keeps up loses nothing of its line, and reaches its end if it
  goes on reading.
* `Station.informed_step`: every step keeps the last word in the lines.
* `Station.converges_of_run`: once a device has read everything, the last word it was told is the
  flag; and a device that goes on reading gets there.
-/

import Mathlib.Data.List.Induction
import Mathlib.Logic.Function.Iterate
import TimedQuiz.App.Basic
import TimedQuiz.Proofs.Feed.Stream
import TimedQuiz.Proofs.Log

namespace TimedQuiz.Feed

/-! ### Messages about the mode -/

namespace Message

/-- What a message tells about the mode. -/
def degraded? (message : Message) : Option Bool :=
  [true, false].find? fun value =>
    decide (message = .handshake value ∨ message = .systemStatus value)

theorem degraded?_handshake (value : Bool) : (handshake value).degraded? = some value := by
  cases value <;> decide

theorem degraded?_systemStatus (value : Bool) : (systemStatus value).degraded? = some value := by
  cases value <;> decide

/-- Messages under other names do not tell anything about it. -/
theorem degraded?_eq_none {message : Message} (first : message.event ≠ some "handshake")
    (later : message.event ≠ some "system_status") : message.degraded? = none := by
  rw [degraded?, List.find?_eq_none]
  intro value _ told
  rcases of_decide_eq_true told with rfl | rfl
  · exact first rfl
  · exact later rfl

theorem degraded?_ofEvent (wall : Timestamp) (event : Event) :
    (ofEvent wall event).degraded? = none := by
  refine degraded?_eq_none ?_ ?_ <;> cases event <;> simp [ofEvent, named]

theorem degraded?_ofCue (cue : Cue) : (ofCue cue).degraded? = none :=
  degraded?_eq_none (by simp [ofCue, named]) (by simp [ofCue, named])

/-- The last word of some messages about the mode. -/
def lastWord (messages : List Message) : Option Bool := (messages.filterMap degraded?).getLast?

theorem lastWord_concat (messages : List Message) (message : Message) :
    lastWord (messages ++ [message]) = message.degraded?.or (lastWord messages) := by
  rw [lastWord, List.filterMap_append, lastWord]
  cases told : message.degraded? with
  | none => rw [List.filterMap_cons_none told, List.filterMap_nil, List.append_nil, Option.none_or]
  | some value =>
    rw [List.filterMap_cons_some told, List.filterMap_nil, List.getLast?_concat, Option.some_or]

/-- The messages begin with a handshake, and the last word in them about the mode is the given
one. -/
def TellsAtLast (degraded : Bool) (messages : List Message) : Prop :=
  ∃ shown rest, messages = .handshake shown :: rest ∧
    (shown :: rest.filterMap degraded?).getLast? = some degraded

/-- A first word is the last one only if no other follows. -/
theorem lastWord_handshake (value : Bool) (rest : List Message) :
    lastWord (handshake value :: rest) = some ((lastWord rest).getD value) := by
  rw [lastWord, List.filterMap_cons_some (degraded?_handshake value), List.getLast?_cons]
  rfl

end Message

/-! ### What a device has been told and can still get -/

/-- Everything a device has been told or can still get, in order. -/
def Listener.line (listener : Listener) (hub : Hub Message) : List Message :=
  listener.received ++ listener.stream.pending hub

/-- The forwarder goes on by one step, and then the device reads. -/
def Listener.advance (hub : Hub Message) (listener : Listener) : Listener :=
  (listener.forward hub).read

/-- A device that keeps up has a line that no message is lost from, and once it is greeted the line
begins with the handshake. -/
structure Listener.KeepsUp (hub : Hub Message) (listener : Listener) : Prop where
  near : hub.tail ≤ listener.stream.position + hub.capacity
  placed : listener.stream.position ≤ hub.tail
  waiting : listener.greeted = false →
    listener.received = [] ∧ listener.stream.buffer = [] ∧ listener.stream.held = none
  opened : listener.greeted = true → ∃ shown rest, listener.line hub = .handshake shown :: rest

namespace Listener.KeepsUp

variable {hub : Hub Message} {listener : Listener}

theorem subscribe (hub : Hub Message) (now : Span) :
    KeepsUp hub { stream := .subscribe hub now } where
  near := Nat.le_add_right ..
  placed := Nat.le_refl _
  waiting _ := ⟨rfl, rfl, rfl⟩
  opened impossible := by cases impossible

section Steps

variable (keeps : KeepsUp hub listener)
include keeps

/-- The greeting opens the line of a device that waits for it. -/
theorem line_greet (degraded : Bool) (waits : listener.greeted = false) :
    (listener.greet degraded).line hub = .handshake degraded :: listener.line hub := by
  obtain ⟨received, buffer, held⟩ := keeps.waiting waits
  rw [greet, waits, if_neg Bool.false_ne_true]
  rw [line, line, Stream.pending, Stream.pending, Stream.greet, received, buffer, held]
  rfl

theorem greet (degraded : Bool) : KeepsUp hub (listener.greet degraded) := by
  cases greeted : listener.greeted with
  | true => rwa [Listener.greet, greeted, if_pos rfl]
  | false =>
    have line := keeps.line_greet degraded greeted
    rw [Listener.greet, greeted, if_neg Bool.false_ne_true] at line ⊢
    exact ⟨keeps.near, keeps.placed, nofun, fun _ => ⟨_, _, line⟩⟩

/-- Going on with the same line. -/
theorem of_line {next : Listener} (greeted : listener.greeted = true) (kept : next.greeted = true)
    (forth : listener.stream.position ≤ next.stream.position)
    (placed : next.stream.position ≤ hub.tail) (line : next.line hub = listener.line hub) :
    KeepsUp hub next where
  near := Nat.le_trans keeps.near (Nat.add_le_add_right forth _)
  placed := placed
  waiting waits := absurd (waits.symm.trans kept) Bool.false_ne_true
  opened _ := line ▸ keeps.opened greeted

/-- **The forwarder loses nothing of the line.** -/
theorem forward :
    KeepsUp hub (listener.forward hub) ∧ (listener.forward hub).line hub = listener.line hub := by
  cases greeted : listener.greeted with
  | false =>
    rw [Listener.forward, greeted, if_neg Bool.false_ne_true]
    exact ⟨keeps, rfl⟩
  | true =>
    obtain ⟨forth, placed⟩ := Stream.position_forward keeps.placed
    have near : hub.oldest ≤ listener.stream.position := Nat.sub_le_of_le_add keeps.near
    have line : ({ listener with stream := listener.stream.forward hub } : Listener).line hub =
        listener.line hub := congrArg (listener.received ++ ·) (Stream.pending_forward near)
    rw [Listener.forward, if_pos greeted]
    exact ⟨keeps.of_line greeted greeted forth placed line, line⟩

/-- **What is read stays in the line.** -/
theorem read : KeepsUp hub listener.read ∧ listener.read.line hub = listener.line hub := by
  have line : listener.read.line hub = listener.line hub := by
    rw [Listener.line, Listener.read, List.append_assoc, Stream.pending_take, Listener.line]
  refine ⟨?_, line⟩
  cases greeted : listener.greeted with
  | false =>
    obtain ⟨-, buffer, -⟩ := keeps.waiting greeted
    rw [Listener.read, Stream.take, buffer]
    simpa using keeps
  | true =>
    have same : listener.stream.take.2.position = listener.stream.position := by
      rw [Stream.take]
      cases listener.stream.buffer <;> rfl
    exact keeps.of_line greeted greeted (Nat.le_of_eq same.symm) (same ▸ keeps.placed) line

/-- As long as something is left, fewer steps are left after the next ones. -/
theorem weight_advance (greeted : listener.greeted = true)
    (left : listener.stream.pending hub ≠ []) :
    (listener.advance hub).stream.weight hub < listener.stream.weight hub := by
  have near : hub.oldest ≤ listener.stream.position := Nat.sub_le_of_le_add keeps.near
  obtain ⟨fewer, needed⟩ := Stream.weight_forward near
  have taken := Stream.weight_take hub (listener.stream.forward hub)
  rw [advance, Listener.forward, if_pos greeted]
  by_cases empty : (listener.stream.forward hub).buffer = []
  · exact Nat.lt_of_le_of_lt (Nat.le.intro taken) (needed empty left)
  · have present := List.length_pos_iff.mpr empty
    rw [Nat.min_eq_left present] at taken
    exact Nat.lt_of_lt_of_le (Nat.lt_of_succ_le (Nat.le_of_eq taken)) fewer

/-- **A device that goes on reading is told everything in its line.** -/
theorem exists_finished (greeted : listener.greeted = true) :
    ∃ count, ((advance hub)^[count] listener).stream.pending hub = [] ∧
      ((advance hub)^[count] listener).received = listener.line hub := by
  induction size : listener.stream.weight hub using Nat.strongRecOn generalizing listener with
  | ind weight ih =>
    by_cases finished : listener.stream.pending hub = []
    · exact ⟨0, finished, by rw [Listener.line, finished, List.append_nil]; rfl⟩
    · obtain ⟨forwarded, same⟩ := keeps.forward
      obtain ⟨told, line⟩ := forwarded.read
      have going : (listener.advance hub).greeted = true := by
        rw [advance, Listener.forward, if_pos greeted]
        exact greeted
      have less := keeps.weight_advance greeted finished
      rw [size] at less
      obtain ⟨count, done, all⟩ := ih _ less told going rfl
      exact ⟨count + 1, done, all.trans (line.trans same)⟩

/-- **A message that is broadcast comes last in the line.** -/
theorem broadcast (message : Message)
    (near : (hub.broadcast message).tail ≤
      listener.stream.position + (hub.broadcast message).capacity) :
    KeepsUp (hub.broadcast message) listener ∧
      listener.line (hub.broadcast message) = listener.line hub ++ [message] := by
  have line : listener.line (hub.broadcast message) = listener.line hub ++ [message] := by
    rw [Listener.line, Stream.pending_broadcast (Nat.sub_le_of_le_add near) keeps.placed,
      ← List.append_assoc, Listener.line]
  refine ⟨⟨near, ?_, keeps.waiting, fun greeted => ?_⟩, line⟩
  · rw [Hub.tail_broadcast]
    exact Nat.le_succ_of_le keeps.placed
  · obtain ⟨shown, rest, opened⟩ := keeps.opened greeted
    exact ⟨shown, rest ++ [message], by rw [line, opened, List.cons_append]⟩

end Steps
end Listener.KeepsUp

namespace Station

open Message

/-! ### The last word -/

/-- The last word in the line of a device is the flag, unless a change is half done. -/
structure Informed (station : Station) (listener : Listener) : Prop extends
    listener.KeepsUp station.hub where
  told : station.unsaid = none → ∀ value, lastWord (listener.line station.hub) = some value →
    value = station.degraded

/-- No device is further behind than the hub keeps. -/
def Near (station : Station) (listener : Listener) : Prop :=
  station.hub.tail ≤ listener.stream.position + station.hub.capacity

instance (station : Station) (listener : Listener) : Decidable (station.Near listener) :=
  inferInstanceAs (Decidable (_ ≤ _))

namespace Informed

variable {station : Station} {listener : Listener}

/-- A device that subscribes now has nothing to get yet. -/
theorem subscribe (station : Station) (now : Span) :
    Informed station { stream := .subscribe station.hub now } where
  toKeepsUp := .subscribe station.hub now
  told _ value last := by
    have empty : Listener.line { stream := .subscribe station.hub now } station.hub = [] :=
      Hub.since_tail
    rw [empty] at last
    cases last

/-- The same flag, hub and line. -/
theorem of_line (informed : Informed station listener) {next : Listener}
    (keeps : next.KeepsUp station.hub) (line : next.line station.hub = listener.line station.hub) :
    Informed station next where
  toKeepsUp := keeps
  told := line ▸ informed.told

/-- The handshake tells the flag, and a change that follows it is the last word. -/
theorem greet (informed : Informed station listener) :
    Informed station (listener.greet station.degraded) := by
  refine ⟨informed.toKeepsUp.greet _, fun settled value last => ?_⟩
  have told := informed.told settled
  cases greeted : listener.greeted with
  | true =>
    rw [Listener.greet, greeted, if_pos rfl] at last
    exact told value last
  | false =>
    rw [informed.line_greet _ greeted, lastWord_handshake, Option.some.injEq] at last
    -- What the device has heard of since it subscribed comes after the handshake.
    cases earlier : lastWord (listener.line station.hub) with
    | none =>
      rw [earlier] at last
      exact last.symm
    | some other =>
      rw [earlier] at last
      exact last.symm.trans (told other earlier)

/-- A broadcast is the last word if it has one about the mode. -/
theorem broadcast {message : Message} (keeps : listener.KeepsUp station.hub)
    (near : (station.broadcast message).Near listener)
    (told : station.unsaid = none → ∀ value,
      message.degraded?.or (lastWord (listener.line station.hub)) = some value →
        value = station.degraded) : Informed (station.broadcast message) listener := by
  obtain ⟨keeps, line⟩ := keeps.broadcast message near
  refine ⟨keeps, fun settled value last => told settled value ?_⟩
  rwa [Station.broadcast, line, lastWord_concat] at last

theorem broadcast_silent (informed : Informed station listener) {message : Message}
    (silent : message.degraded? = none) (near : (station.broadcast message).Near listener) :
    Informed (station.broadcast message) listener := by
  refine .broadcast informed.toKeepsUp near ?_
  rw [silent, Option.none_or]
  exact informed.told

/-- A change that is broadcast is the last word. -/
theorem report {value : Bool} (informed : Informed station listener)
    (current : value = station.degraded)
    (near : ({ station with unsaid := none }.broadcast (.systemStatus value)).Near listener) :
    Informed ({ station with unsaid := none }.broadcast (.systemStatus value)) listener := by
  refine .broadcast informed.toKeepsUp near fun _ other last => ?_
  rw [degraded?_systemStatus, Option.some_or, Option.some.injEq] at last
  exact last.symm.trans current

end Informed

/-- What is still to be broadcast is the flag. -/
def Truthful (station : Station) : Prop := ∀ value ∈ station.unsaid, value = station.degraded

variable {station : Station}

theorem Truthful.step (truthful : station.Truthful) (step : Step) :
    (station.step step).Truthful := by
  cases step with
  | change value =>
    rw [Station.step]
    split
    · exact fun other same => (Option.some.inj same).symm
    · exact truthful
  | report =>
    rw [Station.step]
    split
    · exact nofun
    · exact truthful
  | _ => exact truthful

/-- What happens to one device leaves the others as they are. -/
theorem informed_modify {place other : Nat} {change : Listener → Listener}
    (informed : ∀ listener ∈ station.listeners[place]?, station.Informed listener)
    (keeps : ∀ listener, station.Informed listener → station.Informed (change listener)) :
    ∀ listener ∈ (station.modify other change).listeners[place]?,
      (station.modify other change).Informed listener := by
  intro listener present
  have same : station.Informed listener := by
    rw [modify, List.getElem?_modify, Option.mem_def, Option.map_eq_map, Option.map_eq_some_iff]
      at present
    obtain ⟨before, there, rfl⟩ := present
    have told := informed before there
    split
    · exact keeps before told
    · exact told
  exact ⟨same.toKeepsUp, same.told⟩

/-- **Every step keeps the devices informed that keep up.** -/
theorem informed_step (truthful : station.Truthful) {place : Nat}
    (informed : ∀ listener ∈ station.listeners[place]?, station.Informed listener) (step : Step)
    (near : ∀ listener ∈ (station.step step).listeners[place]?,
      (station.step step).Near listener) :
    ∀ listener ∈ (station.step step).listeners[place]?,
      (station.step step).Informed listener := by
  cases step with
  | greet other => exact informed_modify informed fun _ told => told.greet
  | forward other =>
    exact informed_modify informed fun _ told =>
      told.of_line told.forward.1 told.forward.2
  | read other =>
    exact informed_modify informed fun _ told => told.of_line told.read.1 told.read.2
  | event wall event =>
    exact fun listener present =>
      (informed listener present).broadcast_silent (degraded?_ofEvent ..) (near listener present)
  | cue cue =>
    exact fun listener present =>
      (informed listener present).broadcast_silent (degraded?_ofCue _) (near listener present)
  | subscribe now =>
    intro listener present
    have told : station.Informed listener := by
      rw [Station.step, Option.mem_def, List.getElem?_append] at present
      split at present
      · exact informed listener present
      · obtain rfl := List.mem_singleton.mp (List.mem_of_getElem? present)
        exact .subscribe station now
    exact ⟨told.toKeepsUp, told.told⟩
  | change value =>
    intro listener present
    rw [Station.step] at present ⊢
    split
    · rename_i made
      rw [if_pos made] at present
      exact ⟨(informed listener present).toKeepsUp, nofun⟩
    · rename_i unmade
      rw [if_neg unmade] at present
      exact informed listener present
  | report =>
    intro listener present
    have close := near listener present
    rw [Station.step] at present close ⊢
    cases said : station.unsaid with
    | none =>
      rw [said] at present
      exact informed listener present
    | some value =>
      rw [said] at present close
      exact (informed listener present).report (truthful value said) close

/-! ### The steps of the application -/

/-- The flag and the hub of an application. -/
def ofApp (app : App) : Station := { degraded := app.degraded, hub := app.hub }

/-- Updating the flag is making a change and broadcasting it. -/
theorem updateDegraded_eq (app : App) (value : Bool) :
    ofApp (app.updateDegraded value) = (ofApp app).run [.change value, .report] := by
  rw [App.updateDegraded]
  split
  · rename_i same
    have unchanged : (ofApp app).step (.change value) = ofApp app :=
      if_neg fun changed => changed.2 same
    rw [run, List.foldl_cons, unchanged]
    rfl
  · rename_i other
    have changed : (ofApp app).step (.change value) =
        { ofApp app with degraded := value, unsaid := some value } := if_pos ⟨rfl, other⟩
    rw [run, List.foldl_cons, changed]
    rfl

/-- Opening a stream is subscribing to the hub and being greeted. -/
theorem openStream_eq (app : App) (device : String) :
    (app.openStream device).streams.head? =
      (((ofApp app).run [.subscribe app.now, .greet 0]).listeners.head?).map fun listener =>
        (device, listener.stream) := rfl

/-! ### Runs -/

/-- The device at a place keeps up after a step. -/
def NearAfter (start : Station) (place : Nat) (before : List Step) (step : Step) : Prop :=
  ∀ listener ∈ (start.run (before ++ [step])).listeners[place]?,
    (start.run (before ++ [step])).Near listener

instance (start : Station) (place : Nat) (before : List Step) (step : Step) :
    Decidable (NearAfter start place before step) := by
  unfold NearAfter
  infer_instance

theorem run_concat (start : Station) (steps : List Step) (step : Step) :
    start.run (steps ++ [step]) = (start.run steps).step step := List.foldl_append

theorem truthful_run {start : Station} (truthful : start.Truthful) (steps : List Step) :
    (start.run steps).Truthful :=
  List.foldlRecOn (motive := Truthful) steps _ truthful fun _ same step _ => same.step step

theorem informed_run {start : Station} (empty : start.listeners = []) (truthful : start.Truthful)
    {place : Nat} {steps : List Step} (near : EachAfter (NearAfter start place) steps) :
    ∀ listener ∈ (start.run steps).listeners[place]?, (start.run steps).Informed listener := by
  induction steps using List.reverseRecOn with
  | nil =>
    intro listener present
    rw [run, List.foldl_nil, empty] at present
    cases present
  | append_singleton steps step ih =>
    have close := near.last
    rw [NearAfter, run_concat] at close
    rw [run_concat]
    exact informed_step (truthful_run truthful steps) (ih near.init) step close

/-- A device that goes on reading, step by step. -/
def readOn (place count : Nat) : List Step :=
  (List.replicate count [.forward place, .read place]).flatten

theorem run_readOn (station : Station) (place count : Nat) :
    station.run (readOn place count) =
      station.modify place (Listener.advance station.hub)^[count] := by
  induction count generalizing station with
  | zero =>
    rw [Function.iterate_zero, modify, List.modify_id]
    rfl
  | succ count ih =>
    have first : station.run [.forward place, .read place] =
        station.modify place (Listener.advance station.hub) :=
      congrArg (fun listeners => { station with listeners }) (List.modify_modify_eq ..)
    have begun : station.run (readOn place (count + 1)) =
        (station.run [.forward place, .read place]).run (readOn place count) := by
      rw [readOn, List.replicate_succ, List.flatten_cons]
      exact List.foldl_append
    rw [begun, ih, first, modify, modify, List.modify_modify_eq, ← Function.iterate_succ]
    rfl

/-- **Devices converge on the flag.** However connections, changes and other broadcasts fall
together, take a device that has been greeted and never falls further behind than the hub keeps.
Once no change is half done and it has read everything there is, the handshake was the first message
it got, and the last word it was told is the flag. And if it only goes on reading it gets there. -/
theorem converges_of_run {degraded : Bool} {hub : Hub Message} {steps : List Step} {place : Nat}
    {listener : Listener}
    (near : EachAfter (NearAfter { degraded, hub } place) steps)
    (connected : (run { degraded, hub } steps).listeners[place]? = some listener)
    (greeted : listener.greeted = true)
    (settled : (run { degraded, hub } steps).unsaid = none) :
    let last := run { degraded, hub } steps
    (listener.stream.pending last.hub = [] → TellsAtLast last.degraded listener.received) ∧
      ∃ count, ∃ told, (last.run (readOn place count)).listeners[place]? = some told ∧
        told.stream.pending last.hub = [] ∧ TellsAtLast last.degraded told.received := by
  intro last
  have informed := informed_run rfl (fun _ unsaid => by cases unsaid) near listener connected
  have line : TellsAtLast last.degraded (listener.line last.hub) := by
    obtain ⟨shown, rest, opened⟩ := informed.opened greeted
    have told := informed.told settled
    rw [opened, lastWord_handshake] at told
    refine ⟨shown, rest, opened, ?_⟩
    rw [List.getLast?_cons, ← told _ rfl]
    rfl
  constructor
  · intro finished
    rwa [Listener.line, finished, List.append_nil] at line
  · obtain ⟨count, finished, received⟩ := informed.toKeepsUp.exists_finished greeted
    refine ⟨count, _, ?_, finished, received ▸ line⟩
    rw [run_readOn, modify, List.getElem?_modify_eq, connected]
    rfl

/-- A station in degraded mode whose hub keeps two messages. -/
def smallStation : Station := { degraded := true, hub := { capacity := 2 } }

/-- A change that falls between the two steps of a connection. -/
def changeWhileConnecting : List Step :=
  [.subscribe 0, .change false, .greet 0, .report, .event { nanos := 0 } (.tick 0), .forward 0,
    .forward 0, .forward 0, .forward 0, .read 0, .read 0, .read 0]

/-- The device is told of the change by the handshake and once more by the broadcast. -/
theorem converges_of_changeWhileConnecting :
    EachAfter (NearAfter smallStation 0) changeWhileConnecting ∧
      ∃ listener, (smallStation.run changeWhileConnecting).listeners[0]? = some listener ∧
        listener.greeted = true ∧ (smallStation.run changeWhileConnecting).unsaid = none ∧
        listener.stream.pending (smallStation.run changeWhileConnecting).hub = [] ∧
        TellsAtLast (smallStation.run changeWhileConnecting).degraded listener.received := by
  have near : EachAfter (NearAfter smallStation 0) changeWhileConnecting := by decide
  refine ⟨near, _, rfl, rfl, rfl, by decide, ?_⟩
  refine (converges_of_run near rfl ?_ ?_).1 ?_
  · rfl
  · rfl
  · decide

end Station
end TimedQuiz.Feed
