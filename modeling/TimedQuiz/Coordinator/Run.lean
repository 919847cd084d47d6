/-
**Runs of the coordinator.**

A run is a sequence of commands in any order, each with the clock it is handled by. It is kept as
the list of its exchanges: what was commanded, how it was answered and what was announced. The log
of a run is everything it has announced.
-/

import TimedQuiz.Coordinator.Handle

namespace TimedQuiz.Coordinator

/-! ### What effects announce -/

/-- The event that an effect announces. -/
def Effect.event? : Effect → Option Event
  | publish event => some event
  | _ => none

/-- The events that effects announce, in order. -/
def published (effects : List Effect) : List Event := effects.filterMap Effect.event?

@[simp]
theorem published_nil : published [] = [] := rfl

@[simp]
theorem published_append (first second : List Effect) :
    published (first ++ second) = published first ++ published second :=
  List.filterMap_append

@[simp]
theorem published_cons (effect : Effect) (effects : List Effect) :
    published (effect :: effects) = effect.event?.toList ++ published effects := by
  cases effect <;> rfl

/-- Cancelling announces nothing. -/
@[simp]
theorem published_cancel (tickets : List Nat) : published (tickets.map .cancel) = [] := by
  induction tickets with
  | nil => rfl
  | cons ticket rest ih => rw [List.map_cons, published_cons, ih]; rfl

@[simp]
theorem published_cancelTimers (c : Coordinator) : published c.cancelTimers.2 = [] :=
  published_cancel _

@[simp]
theorem published_scheduleFollowUp (c : Coordinator) (timings : Timings) :
    published (c.scheduleFollowUp timings).2 = [] := by
  rw [scheduleFollowUp, published_append, published_cancel]
  rfl

/-! ### Runs -/

/-- A command that has been handled. -/
structure Exchange where
  command : Command
  reply : Reply
  /-- What was announced while the command was handled. -/
  events : List Event

namespace Exchange

/-- A request to end the round was granted. -/
def ends (exchange : Exchange) : Bool :=
  match exchange.command, exchange.reply with
  | .finish, .finished ended => ended
  | _, _ => false

/-- A round was started. -/
def starts (exchange : Exchange) : Bool :=
  exchange.events.any fun event => event.kind == .roundStarted

end Exchange

/-- The exchange in which a command is handled. -/
def exchange (timings : Timings) (c : Coordinator) (input : Watch × Command) : Exchange :=
  let (reply, _, effects) := c.handle timings input.1 input.2
  { command := input.2, reply, events := published effects }

/-- A coordinator and the commands it has handled. -/
structure Run where
  coordinator : Coordinator := {}
  exchanges : List Exchange := []

namespace Run

/-- Everything that was announced. -/
def log (run : Run) : List Event := run.exchanges.flatMap Exchange.events

/-- Handles one more command. -/
def next (timings : Timings) (run : Run) (input : Watch × Command) : Run :=
  { coordinator := (run.coordinator.handle timings input.1 input.2).2.1
    exchanges := run.exchanges ++ [run.coordinator.exchange timings input] }

/-- The run that handles some commands from the beginning. -/
def of (timings : Timings) (inputs : List (Watch × Command)) : Run :=
  inputs.foldl (next timings) {}

theorem of_concat (timings : Timings) (inputs : List (Watch × Command)) (input : Watch × Command) :
    of timings (inputs ++ [input]) = (of timings inputs).next timings input := by
  rw [of, List.foldl_append]
  rfl

theorem log_next (timings : Timings) (run : Run) (input : Watch × Command) :
    (run.next timings input).log =
      run.log ++ published (run.coordinator.handle timings input.1 input.2).2.2 := by
  rw [log, next, List.flatMap_append, List.flatMap_singleton, log]
  rfl

end Run
end TimedQuiz.Coordinator
