/-
**The application and the supervisor of its storage connection.**

The supervisor goes on by itself, and in between the application receives what comes from outside.
What the supervisor does, it does to the application: it installs a store or takes it away, and sets
the degraded flag.
-/

import TimedQuiz.App.Run
import TimedQuiz.Supervisor

namespace TimedQuiz

namespace App

/-- The supervisor does an action to the application; a store that it installs has some faults. -/
def act (store : Store.Faults) (app : App) : Supervisor.Action → App
  | .install => app.install store
  | .remove => app.remove
  | .setDegraded value => app.updateDegraded value

end App

/-- The application and its supervisor. -/
structure Supervised where
  app : App
  supervisor : Supervisor.World

namespace Supervised

/-- The application at its start, under a supervisor whose attempts to connect will end as the
script says. -/
def start (app : App) (connections : List (Option Supervisor.Connection)) : Supervised :=
  { app, supervisor := { connections } }

/-- What happens next. -/
inductive Step
  /-- The supervisor goes on; the faults are those of a store that it connects to now. -/
  | wake (store : Store.Faults)
  /-- Something comes from outside. -/
  | receive (input : App.Input)

/-- The supervisor goes on once, and does to the application what its step asks for. -/
def wake (store : Store.Faults) (whole : Supervised) : Supervised :=
  let world := whole.supervisor
  let (_, actions, _) := world.supervisor.step world.makeCall.1
  { app := actions.foldl (App.act store) whole.app, supervisor := world.wake }

/-- The whole after a step. -/
def step (whole : Supervised) : Step → Supervised
  | .wake store => whole.wake store
  | .receive input => { whole with app := whole.app.receive input }

/-- The whole after some steps. -/
def run (whole : Supervised) (steps : List Step) : Supervised := steps.foldl step whole

end Supervised
end TimedQuiz
