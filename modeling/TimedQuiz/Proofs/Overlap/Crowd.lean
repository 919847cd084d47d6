/-
**Many clients at the same time.**

To start a round a client waits three times: for the recorder's queue to drain, for the login, which
reads the stored counters, and for the coordinator. Between any two of these everybody else may go
on: other clients who start, answer, skip or end, fetches and countdowns, and the recorder's worker,
which makes the calls of its jobs one by one. The store never fails.

A `Crowd` is the whole of it. Some of what it keeps has no part in what happens, but tells what has
been read and when: `Visit.arrived`, `Reading`, `Opening` and `Crowd.written`.
-/

import TimedQuiz.Account
import TimedQuiz.Proofs.Coordinator.Schedule
import TimedQuiz.Proofs.Overlap.Records
import TimedQuiz.Proofs.Recorder.Call

namespace TimedQuiz

open Coordinator (Command Reply Request World)
open Recorder (Call)

namespace Crowd

/-- Counters that were read for a start. -/
structure Reading where
  player : Player
  /-- How many events there were to be written when the client arrived. -/
  arrived : Nat
  /-- How many of them had been written when the counters were read. -/
  read : Nat
  deriving DecidableEq, Repr

/-- How far a client has got. -/
inductive Stage
  /-- The client waits for the queue to drain. -/
  | waiting
  /-- The client is logged in and has been given the counters. -/
  | ready (player : Player) (read : Nat)
  /-- The client has been turned away, or has asked the coordinator. -/
  | gone
  deriving DecidableEq, Repr

/-- A client who wants to start a round. -/
structure Visit where
  credentials : Credentials
  arrived : Nat
  stage : Stage := .waiting
  deriving DecidableEq, Repr

/-- A start that was accepted, and the events before it. -/
structure Opening where
  before : List Event
  reading : Reading
  deriving DecidableEq, Repr

/-- The verdicts on the player's answers that had not been written when the counters were read. -/
def Opening.missed (opening : Opening) : List Bool :=
  Log.verdicts opening.reading.player.username
    ((Log.records opening.before).drop opening.reading.read)

end Crowd

/-- The coordinator's world, the recorder, the store and the clients. -/
structure Crowd where
  timings : Timings := .standard
  epoch : Timestamp := { nanos := 0 }
  world : World := {}
  recorder : Recorder := {}
  /-- The calls that are left of the job taken last. -/
  hand : List Call := []
  memory : Store.Memory := {}
  /-- All who have arrived, in order. -/
  visits : List Crowd.Visit := []
  /-- What was read for each start that waits for the coordinator. -/
  asked : List Crowd.Reading := []
  openings : List Crowd.Opening := []
  /-- How many events have been written. -/
  written : Nat := 0

namespace Crowd

/-- All events so far, in order. -/
def events (crowd : Crowd) : List Event := crowd.world.log.map Prod.snd

/-- The store, which is installed and has no faults. -/
def storage (crowd : Crowd) : Store.Storage := { memory := crowd.memory, installed := some {} }

/-! ### Steps -/

/-- What may happen next. -/
inductive Step
  | register (wall : Timestamp) (credentials : Credentials)
  /-- A client wants to start a round and begins to wait for the queue. -/
  | arrive (credentials : Credentials)
  /-- The client with a number logs in. -/
  | login (visit : Nat) (wall : Timestamp)
  /-- The client with a number asks the coordinator to start. -/
  | send (visit : Nat)
  /-- A client asks the coordinator for something else. -/
  | ask (request : Request)
  /-- The coordinator handles the first waiting command. -/
  | deliver
  /-- The work with a ticket comes due. -/
  | fire (ticket : Nat) (outcome : Option Puzzle)
  | wait (span : Span)
  /-- The worker takes the next job, once it is done with the job before. -/
  | take
  /-- The worker makes the next call. -/
  | call (wall : Timestamp)

/-- The coordinator has accepted a start. -/
def accepts : Reply → Bool
  | .started (.ok _) => true
  | _ => false

variable (crowd : Crowd)

/-- The recorder hears what was announced. -/
def hearAll (told : List (Span × Event)) : Recorder :=
  told.foldl (fun recorder (instant, event) => recorder.hear (crowd.epoch.after instant) event)
    crowd.recorder

/-- A command has been handled: if it was a start, one start less waits. -/
def note (before : List Event) (command : Command) (reply : Reply) : Crowd :=
  match command, crowd.asked with
  | .start _, reading :: later =>
    { crowd with
      asked := later
      openings := crowd.openings ++ if accepts reply then [{ before, reading }] else [] }
  | _, _ => crowd

/-- The coordinator handles a command, and the recorder hears of it at once. -/
def handle (command : Command) (rest : List Command) : Crowd :=
  let (reply, world) := { crowd.world with mailbox := rest }.handle crowd.timings command
  let recorder := crowd.hearAll (world.log.drop crowd.world.log.length)
  note { crowd with world, recorder } crowd.events command reply

/-- A client logs in. -/
def enter (number : Nat) (visit : Visit) (wall : Timestamp) : Crowd :=
  let (answer, storage) := (Account.authenticate wall visit.credentials).on crowd.storage
  let stage := match answer with
    | .ok record => .ready record.stats crowd.written
    | .error _ => .gone
  { crowd with memory := storage.memory, visits := crowd.visits.set number { visit with stage } }

/-- One step; a step that does not apply changes nothing. -/
def step : Step → Crowd
  | .register wall credentials =>
    { crowd with
      memory := ((Account.register wall credentials).on crowd.storage).2.memory }
  | .arrive credentials =>
    { crowd with
      recorder := crowd.recorder.flush crowd.visits.length
      visits :=
        crowd.visits ++ [{ credentials, arrived := (Log.records crowd.events).length }] }
  | .login number wall =>
    match crowd.visits[number]? with
    | some visit =>
      if visit.stage = .waiting ∧ number ∈ crowd.recorder.released then
        crowd.enter number visit wall
      else crowd
    | none => crowd
  | .send number =>
    match crowd.visits[number]? with
    | some { credentials, arrived, stage := .ready player read } =>
      { crowd with
        world := crowd.world.post (.start player)
        visits := crowd.visits.set number { credentials, arrived, stage := .gone }
        asked := crowd.asked ++ [{ player, arrived, read }] }
    | _ => crowd
  | .ask request =>
    match request with
    | .start _ => crowd
    | other => { crowd with world := crowd.world.post other.command }
  | .deliver =>
    match crowd.world.mailbox with
    | [] => crowd
    | command :: rest => crowd.handle command rest
  | .fire ticket outcome =>
    { crowd with world := crowd.world.step crowd.timings (.fire ticket outcome) }
  | .wait span => { crowd with world := crowd.world.step crowd.timings (.wait span) }
  | .take =>
    match crowd.hand, crowd.recorder.take? with
    | [], some (job, recorder) => { crowd with recorder, hand := job.calls }
    | _, _ => crowd
  | .call wall =>
    match crowd.hand with
    | [] => crowd
    | call :: hand =>
      { crowd with
        memory := call.on {} wall crowd.memory
        hand
        written := crowd.written + call.stats?.toList.length }

/-- The crowd after some steps from the beginning. -/
def after (timings : Timings) (epoch : Timestamp) (steps : List Step) : Crowd :=
  steps.foldl step { timings, epoch }

end Crowd
end TimedQuiz
