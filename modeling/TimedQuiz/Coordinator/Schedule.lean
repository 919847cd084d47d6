/-
**The world on an exact clock.**

Here every piece of work comes due exactly at its time, and the source of puzzles follows a script
that says, for each call, how long the answer takes and what it is. At an instant all work that is
due is done in order of its due time, then all commands are handled, until nothing is left to do at
that instant. The clock may also be moved at once; work that fell due in between is then done late.

No timer waits for more than thirty years. One that is set for longer goes off after thirty years,
be it a piece of work, the source taking its time to answer, or someone letting time go by.
-/

import TimedQuiz.Coordinator.World

namespace TimedQuiz.Coordinator

/-- How the source answers one call. -/
structure Attempt where
  /-- How long the answer takes; nothing for a call that is never answered. -/
  delay : Option Span
  /-- The puzzle, or nothing for a failure. -/
  outcome : Option Puzzle
  deriving DecidableEq, Repr

/-- The answers of the source to its calls in order; later calls are never answered. -/
abbrev Script := List Attempt

/-- The answer to a call that is never answered. -/
def Attempt.never : Attempt := { delay := none, outcome := none }

namespace Script

/-- The answer to the call with a number. -/
def attempt (script : Script) (call : Nat) : Attempt := script.getD call .never

end Script

/-- The longest that a timer waits: thirty years of 365 days. -/
def longestWait : Span := Span.ofSeconds (30 * 365 * 24 * 60 * 60) 0

namespace World

/-- When a piece of work is set to come due: a fetch with its answer, or when it has taken too
long. -/
def setDue (timings : Timings) (script : Script) (task : Task) : Span :=
  match task.job with
  | .reminder due _ => due
  | .countDown _ _ due => due
  | .fetch _ call =>
    match (script.attempt call).delay with
    | some delay => task.since + min delay timings.fetchTimeout
    | none => task.since + timings.fetchTimeout

/-- When a piece of work comes due: when it is set to, but no later than the longest wait allows. -/
def dueAt (timings : Timings) (script : Script) (task : Task) : Span :=
  min (setDue timings script task) (task.since + longestWait)

/-- What a fetch brings when it is looked at: the answer if it has arrived by now. -/
def outcomeOf (script : Script) (now : Span) (task : Task) : Option Puzzle :=
  match task.job with
  | .fetch _ call =>
    let attempt := script.attempt call
    match attempt.delay with
    | some delay => if task.since + min delay longestWait ≤ now then attempt.outcome else none
    | none => none
  | _ => none

/-- The work that is due by now, in order of its due time and among equals the older first. -/
def dueTasks (timings : Timings) (script : Script) (world : World) : List Task :=
  let due := world.tasks.filter fun task => decide (dueAt timings script task ≤ world.now)
  due.mergeSort fun a b => decide (dueAt timings script a ≤ dueAt timings script b)

/-- Does all work that is due, then handles all commands. -/
def pass (timings : Timings) (script : Script) (world : World) : World :=
  let fired := (world.dueTasks timings script).foldl
    (fun current task => current.fire timings task (outcomeOf script world.now task)) world
  fired.mailbox.foldl (fun current command => (current.handle timings command).2)
    { fired with mailbox := [] }

/-- Passes over what is due until nothing is left, at most `bound` times. -/
def settleWithin (timings : Timings) (script : Script) : Nat → World → World
  | 0, world => world
  | bound + 1, world =>
    if (world.dueTasks timings script).isEmpty && world.mailbox.isEmpty then world
    else settleWithin timings script bound (world.pass timings script)

/-- More passes than one instant can need: a pass that is followed by another at the same instant
has set off a fetch or a retry that takes no time, or a look at the clock that is overdue. -/
def passBound (script : Script) (world : World) : Nat :=
  2 * (script.length + world.tasks.length) + 16

/-- Lets everything happen that can happen at this instant. -/
def settle (timings : Timings) (script : Script) (world : World) : World :=
  settleWithin timings script (passBound script world) world

/-- Handles a request at once and lets everything happen that then can. -/
def request (timings : Timings) (script : Script) (world : World) (command : Command) :
    Reply × World :=
  let (reply, next) := world.handle timings command
  (reply, next.settle timings script)

/-- When the next piece of work comes due. -/
def nextDue? (timings : Timings) (script : Script) (world : World) : Option Span :=
  (world.tasks.map (dueAt timings script)).min?

/-- Lets time go by from `now` until `target`, stopping at every instant at which work comes due. -/
def sleepUntil (timings : Timings) (script : Script) (target now : Span) (world : World) : World :=
  match world.nextDue? timings script with
  | none => { world with now := max now target }
  | some due =>
    let instant := max due (now + 1)
    if reached : instant ≤ target then
      have later : now < instant := Nat.le_max_right due (now + 1)
      have _closer : target - instant < target - now :=
        Nat.sub_lt_sub_left (Nat.lt_of_lt_of_le later reached) later
      sleepUntil timings script target instant
        ({ world with now := instant }.settle timings script)
    else { world with now := max now target }
termination_by target - now

/-- Lets some time go by, but no more than the longest wait. -/
def sleep (timings : Timings) (script : Script) (world : World) (span : Span) : World :=
  world.sleepUntil timings script (world.now + min span longestWait) world.now

/-- Moves the clock at once; what fell due in between happens late. -/
def jump (timings : Timings) (script : Script) (world : World) (span : Span) : World :=
  { world with now := world.now + span }.settle timings script

end World
end TimedQuiz.Coordinator
