/-
**Runs of the application.**

What comes from outside is handled one after the other: each request, and each stretch of time, is
followed by everything that can happen then.
-/

import TimedQuiz.App.Serve

namespace TimedQuiz.App

/-- What comes from outside. -/
inductive Input
  | request (request : Http.Request)
  | sleep (span : Span)
  /-- A device opens its stream of the live feed. -/
  | connect (device : String)
  | read (device : String)
  | disconnect (device : String)

/-- The application after an input. -/
def receive (app : App) : Input → App
  | .request request => (app.serve request).2
  | .sleep span => app.sleep span
  | .connect device => app.openStream device
  | .read device => (app.readStream device).2
  | .disconnect device => (app.closeStream device).2

/-- The application after some inputs. -/
def run (app : App) (inputs : List Input) : App := inputs.foldl receive app

/-- The application with a fresh store in memory, when the calendar shows `epoch`. -/
def inMemory (settings : Settings) (script : Coordinator.Script) (epoch : Timestamp) : App :=
  ({ ofSettings settings script with epoch } : App).withStorage none

/-- All events so far, in order. -/
def events (app : App) : List Event := app.world.log.map Prod.snd

end TimedQuiz.App
