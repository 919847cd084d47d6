/-
**The coordinator and the work around it.**

The world is the coordinator together with its clock, the commands waiting to be handled, the work
under way, and a record of what has been announced and when. Work is of three sorts: fetches, which
nobody can cancel; reminders; and countdowns, which look at the clock of a round again and again
until it has run out.

The world moves in small steps, and each says only what it does, not when it may happen: a request
arriving, the first waiting command being handled, a piece of work coming due, time going by. A
schedule is a choice of steps.
-/

import TimedQuiz.Coordinator.Handle

namespace TimedQuiz.Coordinator

/-! ### Requests -/

/-- What someone outside can ask. All other commands come from the work under way. -/
inductive Request
  | start (player : Player)
  | submit (value : Int)
  | next
  | finish
  | look
  deriving DecidableEq, Repr

/-- The command that carries a request. -/
def Request.command : Request → Command
  | start player => .start player
  | submit value => .submit value
  | next => .next
  | finish => .finish
  | look => .look

/-! ### Work under way -/

/-- What a piece of work does. -/
inductive Job
  /-- A fetch for a round: the how-manieth call of the source it is. -/
  | fetch (generation call : Nat)
  /-- The countdown of a round, and when it looks at the clock next. -/
  | countDown (generation : Nat) (clock : Clock) (due : Span)
  /-- A command to be sent at an instant. -/
  | reminder (due : Span) (command : Command)
  deriving DecidableEq, Repr

/-- A piece of work and its ticket. -/
structure Task where
  ticket : Nat
  /-- When the wait began that it is in: when it was started, or, for a countdown, when it last
  looked at the clock. -/
  since : Span
  job : Job
  deriving DecidableEq, Repr

/-- The coordinator and everything around it. -/
structure World where
  now : Span := 0
  coordinator : Coordinator := {}
  /-- Work under way, the oldest first. -/
  tasks : List Task := []
  /-- Commands not yet handled, the oldest first. -/
  mailbox : List Command := []
  /-- What was announced, and when. -/
  log : List (Span × Event) := []
  /-- When the source was called. -/
  calls : List Span := []
  deriving DecidableEq, Repr

namespace World

/-- Starts a piece of work. -/
def spawn (world : World) (ticket : Nat) (job : Job) : World :=
  { world with tasks := world.tasks ++ [{ ticket, since := world.now, job }] }

/-- Gives up a piece of work; nothing happens when it has been done already. -/
def drop (world : World) (ticket : Nat) : World :=
  { world with tasks := world.tasks.filter fun task => task.ticket != ticket }

/-- Puts a command behind those that wait. -/
def post (world : World) (command : Command) : World :=
  { world with mailbox := world.mailbox ++ [command] }

/-- Carries out one effect. -/
def perform (world : World) : Effect → World
  | .publish event => { world with log := world.log ++ [(world.now, event)] }
  | .fetch ticket generation =>
    { world with calls := world.calls ++ [world.now] }.spawn ticket
      (.fetch generation world.calls.length)
  | .countDown ticket generation clock =>
    world.spawn ticket (.countDown generation clock world.now)
  | .remind ticket delay command => world.spawn ticket (.reminder (world.now + delay) command)
  | .cancel ticket => world.drop ticket

/-- Handles a command, which takes some time, and carries out its effects in order. -/
def handleSlowly (timings : Timings) (pauses : List Span) (world : World) (command : Command) :
    Reply × World :=
  let watch : Watch := { start := world.now, pauses }
  let (reply, coordinator, effects) := world.coordinator.handle timings watch command
  (reply, effects.foldl perform { world with coordinator, now := watch.stop })

/-- Handles a command at once. -/
def handle (timings : Timings) (world : World) (command : Command) : Reply × World :=
  world.handleSlowly timings [] command

/-- Handles the first waiting command. -/
def deliver (timings : Timings) (pauses : List Span) (world : World) : World :=
  match world.mailbox with
  | [] => world
  | command :: rest => (handleSlowly timings pauses { world with mailbox := rest } command).2

/-! ### Work coming due -/

/-- How late a look at the clock may come before the looks missed in between are given up. -/
def lateness : Span := Span.ofMillis 5

/-- When a countdown looks at the clock next, after a look at `now` that was due at `due`: one
period later, or, when that look came too late, at the next multiple of the period. -/
def nextLook (period due now : Span) : Span :=
  if now ≤ due + lateness then due + period else now + period - (now - due) % period

/-- The task with a ticket now waits for something else. -/
def replace (world : World) (ticket : Nat) (job : Job) : World :=
  { world with tasks := world.tasks.map fun task =>
      if task.ticket = ticket then { ticket, since := world.now, job } else task }

/-- A piece of work comes due: a reminder sends its command, a countdown looks at the clock, and a
fetch completes with the given outcome. -/
def fire (timings : Timings) (world : World) (task : Task) (outcome : Option Puzzle) : World :=
  match task.job with
  | .reminder _ command => (world.drop task.ticket).post command
  | .fetch generation _ => (world.drop task.ticket).post (.fetched generation outcome)
  | .countDown generation clock due =>
    let remaining := clock.remaining world.now
    let told := world.post (.tick generation remaining)
    if remaining = 0 then (told.drop task.ticket).post (.expired generation)
    else told.replace task.ticket
      (.countDown generation clock (nextLook timings.tick due world.now))

/-! ### Steps -/

/-- A step of the world. -/
inductive Step
  /-- A request arrives from outside. -/
  | ask (request : Request)
  /-- The first waiting command is handled while the clock moves on by some pauses. -/
  | deliver (pauses : List Span)
  /-- The work with a ticket comes due; a fetch has the given outcome. -/
  | fire (ticket : Nat) (outcome : Option Puzzle)
  /-- Time goes by. -/
  | wait (span : Span)
  deriving DecidableEq, Repr

/-- The world after a step; a step that does not apply changes nothing. -/
def step (timings : Timings) (world : World) : Step → World
  | .ask request => world.post request.command
  | .deliver pauses => world.deliver timings pauses
  | .fire ticket outcome =>
    match world.tasks.find? fun task => task.ticket == ticket with
    | some task => world.fire timings task outcome
    | none => world
  | .wait span => { world with now := world.now + span }

/-- The world after some steps. -/
def run (timings : Timings) (world : World) (steps : List Step) : World :=
  steps.foldl (step timings) world

end World
end TimedQuiz.Coordinator
