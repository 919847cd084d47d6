/-
**The application.**

The application joins the coordinator with everything that listens to it: the live feed, the sound
cues and the recorder of results listen on the bus, in this order, so that a cue follows the event
that caused it. The application works on the store that is installed, and tells every device when it
gets into degraded mode or out of it.

The coordinator's announcements are told to the listeners in the order in which they were made. The
recorder's worker does its jobs as soon as it can.
-/

import TimedQuiz.Bus
import TimedQuiz.Coordinator.Schedule
import TimedQuiz.Feed.Stream
import TimedQuiz.Recorder
import TimedQuiz.Service
import TimedQuiz.Settings

namespace TimedQuiz

namespace App

/-- Who listens on the bus. -/
inductive Observer
  | feed
  | cues
  | recorder
  deriving DecidableEq, Repr

/-- The bus with everyone who listens. -/
def standardBus : Bus Observer :=
  let (_, feed) := ({} : Bus Observer).subscribe Event.Kind.all .feed
  let (_, cues) := feed.subscribe Sound.kinds .cues
  let (_, recorder) := cues.subscribe Recorder.kinds .recorder
  recorder

/-- How many messages the hub keeps. -/
def hubCapacity : Nat := 64

end App

/-- The state of the application. -/
structure App where
  timings : Timings := .standard
  /-- How the source of puzzles answers. -/
  script : Coordinator.Script := []
  /-- The point in time at which the clock started. -/
  epoch : Timestamp := { nanos := 0 }
  world : Coordinator.World := {}
  bus : Bus App.Observer := App.standardBus
  sound : Sound := {}
  recorder : Recorder := {}
  storage : Store.Storage := {}
  /-- The application works without a reliable store. -/
  degraded : Bool := true
  hub : Feed.Hub Feed.Message := .ofCapacity App.hubCapacity
  /-- The open streams with the names of their devices. -/
  streams : List (String × Feed.Stream) := []

namespace App

/-- The application before anything has happened. -/
def ofSettings (settings : Settings) (script : Coordinator.Script) : App :=
  { timings := settings.timings, script, sound := { muted := settings.muted } }

/-- The reading of the clock. -/
def now (app : App) : Span := app.world.now

/-- The point in time of the calendar at an instant. -/
def wallAt (app : App) (instant : Span) : Timestamp := app.epoch.after instant

/-- The point in time of the calendar. -/
def wall (app : App) : Timestamp := app.wallAt app.now

/-! ### The live feed -/

/-- Sends a message to every device. -/
def broadcast (app : App) (message : Feed.Message) : App :=
  let hub := app.hub.broadcast message
  { app with
    hub
    streams := app.streams.map fun (device, stream) => (device, stream.pump hub) }

/-- Opens a stream for a device. -/
def openStream (app : App) (device : String) : App :=
  let stream := (Feed.Stream.subscribe app.hub app.now).greet app.degraded
  { app with streams := (device, stream) :: app.streams.filter fun entry => entry.1 != device }

/-- Closes the stream of a device, and tells whether it was open. -/
def closeStream (app : App) (device : String) : Bool × App :=
  ((app.streams.lookup device).isSome,
    { app with streams := app.streams.filter fun entry => entry.1 != device })

/-- A device reads its stream, if it is open. -/
def readStream (app : App) (device : String) : Option (List Feed.Delivery) × App :=
  match app.streams.lookup device with
  | none => (none, app)
  | some stream =>
    let (deliveries, next) := stream.read app.hub app.now
    (some deliveries,
      { app with streams := app.streams.map fun (name, other) =>
          (name, if name = device then next else other) })

/-! ### Degraded mode -/

/-- Sets the degraded flag, and tells every device when it changes. -/
def updateDegraded (app : App) (value : Bool) : App :=
  if app.degraded = value then app
  else { app with degraded := value }.broadcast (.systemStatus value)

/-- Installs a store, which ends degraded mode. -/
def install (app : App) (faults : Store.Faults) : App :=
  { app with storage := { app.storage with installed := some faults } }.updateDegraded false

/-- Takes the store away, which begins degraded mode. -/
def remove (app : App) : App :=
  { app with storage := { app.storage with installed := none } }.updateDegraded true

/-- Chooses the storage at the start. When no address of a database is given, the store in memory is
installed; otherwise the supervisor of the connection installs a store once it has connected. -/
def withStorage (app : App) (address : Option String) : App :=
  match address with
  | none => app.install {}
  | some _ => app

/-! ### Listeners -/

/-- An observer hears of an event. -/
def hear (wall : Timestamp) (event : Event) (app : App) : Observer → App
  | .feed => app.broadcast (.ofEvent wall event)
  | .cues =>
    match app.sound.hear event with
    | (some cue, sound) => { app with sound }.broadcast (.ofCue cue)
    | (none, sound) => { app with sound }
  | .recorder => { app with recorder := app.recorder.hear wall event }

/-- Tells an event to everyone who listens. -/
def announce (app : App) (instant : Span) (event : Event) : App :=
  (app.bus.recipients event).foldl
    (fun current registration => hear (app.wallAt instant) event current registration.listener) app

/-- The recorder's worker does its jobs at an instant. -/
def drain (app : App) (instant : Span) : App :=
  let (recorder, storage) := app.recorder.drain (app.wallAt instant) app.storage
  { app with recorder, storage }

/-- Waits until all that the recorder has queued is written. -/
def flush (app : App) : App := { app with recorder := app.recorder.flush 0 }.drain app.now

/-! ### The coordinator -/

/-- The coordinator's world moves on; what it has announced meanwhile is told and recorded. -/
def follow (app : App) (world : Coordinator.World) : App :=
  (world.log.drop app.world.log.length).foldl
    (fun current (instant, event) => (current.announce instant event).drain instant)
    { app with world }

/-- The coordinator handles a command at once. Whoever asks goes on when everything has happened
that can happen at this instant; the reply shows how things stood before that. -/
def ask (app : App) (command : Coordinator.Command) : Coordinator.Reply × App :=
  let (reply, world) := app.world.request app.timings app.script command
  (reply, app.follow world)

/-- Lets some time go by. -/
def sleep (app : App) (span : Span) : App :=
  app.follow (app.world.sleep app.timings app.script span)

/-- Runs a service on the storage. -/
def serveStored {α : Type} (app : App) (service : Service α) : Except Trouble α × App :=
  let (result, storage) := service.on app.storage
  (result, { app with storage })

end App
end TimedQuiz
