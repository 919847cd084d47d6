/-
**Listeners that act on the bus.**

A listener may subscribe, unsubscribe and publish while it handles an event. Here a listener is
given by what it does at each of its deliveries in turn, and a run of the bus is recorded as a log
of deliveries, each with the event that is handed over, and of the acts done inside them. A
publication made inside a handler is delivered in full before the handler goes on.
-/

import TimedQuiz.Bus

namespace TimedQuiz.Bus

/-- Something done to the bus. A subscription brings along what its listener will do: the first list
of acts at its first delivery, the second at its second, and nothing once the lists are used up. -/
inductive Act
  | subscribe (name : String) (kinds : List Event.Kind) (reactions : List (List Act))
  | unsubscribe (name : String)
  | publish (event : Event)
  deriving Nonempty

/-- What an act answers; only an unsubscription by a bound name has an answer. -/
abbrev Act.Answer := Option Bool

/-- The word for what is done. -/
inductive Act.Label
  | subscribe
  | unsubscribe
  | publish
  deriving DecidableEq, Repr

/-- The word for an act. -/
def Act.label : Act → Act.Label
  | .subscribe _ _ _ => .subscribe
  | .unsubscribe _ => .unsubscribe
  | .publish _ => .publish

/-- An entry of the log. -/
inductive Entry
  /-- The event was handed to the named listener. -/
  | delivered (name : String) (event : Event)
  | acted (name : String) (label : Act.Label) (answer : Act.Answer)
  deriving DecidableEq, Repr

/-- A bus with named listeners that may act on it. -/
structure Desk where
  bus : Bus String := {}
  /-- The identity that a name is bound to. -/
  bound : String → Option Nat := fun _ => none
  /-- What the listener of an identity will still do. -/
  reactions : List (Nat × List (List Act)) := []
  log : List Entry := []

namespace Desk

/-- Registers a listener and binds its name to the new identity. -/
def subscribe (desk : Desk) (name : String) (kinds : List Event.Kind)
    (reactions : List (List Act)) : Desk :=
  let (id, bus) := desk.bus.subscribe kinds name
  { desk with
    bus
    bound := fun other => if other = name then some id else desk.bound other
    reactions := (id, reactions) :: desk.reactions }

/-- Removes the registrations of the identity that a name is bound to. -/
def unsubscribe (desk : Desk) (name : String) : Act.Answer × Desk :=
  match desk.bound name with
  | none => (none, desk)
  | some id =>
    let (removed, bus) := desk.bus.unsubscribe id
    (some removed, { desk with bus })

/-- Appends to the log. -/
def note (desk : Desk) (entry : Entry) : Desk := { desk with log := desk.log ++ [entry] }

/-- Takes what the listener of an identity does at its next delivery. -/
def takeReaction (desk : Desk) (id : Nat) : List Act × Desk :=
  match desk.reactions.lookup id with
  | some (acts :: later) =>
    let others := desk.reactions.filter fun entry => entry.1 != id
    (acts, { desk with reactions := (id, later) :: others })
  | _ => ([], desk)

/-- Does an act. Publications nest at most `depth` deep inside it. -/
def perform : Nat → Desk → Act → Act.Answer × Desk
  | _, desk, .subscribe name kinds reactions => (none, desk.subscribe name kinds reactions)
  | _, desk, .unsubscribe name => desk.unsubscribe name
  | 0, desk, .publish event =>
    (none, (desk.bus.recipients event).foldl
      (fun current entry => current.note (.delivered entry.listener event)) desk)
  | depth + 1, desk, .publish event =>
    (none, (desk.bus.recipients event).foldl (fun current entry =>
      let noted := current.note (.delivered entry.listener event)
      let (acts, ready) := noted.takeReaction entry.id
      acts.foldl (fun inner act =>
        let (answer, next) := perform depth inner act
        next.note (.acted entry.listener act.label answer)) ready) desk)

mutual

/-- How many lists of acts an act can set off. -/
def countAct : Act → Nat
  | .subscribe _ _ reactions => countAll reactions
  | .unsubscribe _ => 0
  | .publish _ => 0

/-- How many lists of acts some lists of acts are and can set off. -/
def countAll : List (List Act) → Nat
  | [] => 0
  | acts :: rest => 1 + countEach acts + countAll rest

/-- How many lists of acts some acts can set off. -/
def countEach : List Act → Nat
  | [] => 0
  | act :: rest => countAct act + countEach rest

end

/-- How many lists of acts the listeners of a desk can still set off, so that publications nest no
deeper. -/
def pendingReactions (desk : Desk) : Nat :=
  desk.reactions.foldl (fun total entry => total + countAll entry.2) 0

/-- Does an act and everything it sets off. -/
def act (desk : Desk) (act : Act) : Act.Answer × Desk :=
  perform (desk.pendingReactions + 1) desk act

end Desk
end TimedQuiz.Bus
