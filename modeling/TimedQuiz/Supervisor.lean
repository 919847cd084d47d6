/-
**The supervisor of the storage connection.**

The supervisor connects to a database, watches over the connection, and keeps the rest of the
application informed whether it runs in degraded mode. It does one thing at a time and then waits:

* an attempt to connect that fails is followed by a wait, each twice as long as the one before, up
  to a limit;
* a connection that is healthy is looked at again after a while;
* a connection that is not is revived by up to three attempts, the waits after them doubling again;
  if none succeeds, the connection is given up and the supervisor starts over.
-/

import TimedQuiz.Span

namespace TimedQuiz

namespace Supervisor

/-- The wait between two looks at a healthy connection. -/
def healthInterval : Span := Span.ofMillis 5000

/-- How many attempts are made to revive a connection. -/
def reconnectLimit : Nat := 3

/-- A wait after a failure; it takes some time. -/
structure Delay where
  span : Span
  span_pos : 0 < span
  deriving DecidableEq, Repr

/-- The first wait after a failure. -/
def Delay.initial : Delay := ⟨Span.ofMillis 1000, by decide⟩

/-- The longest wait after a failure. -/
def Delay.longest : Delay := ⟨Span.ofMillis 10000, by decide⟩

/-- The wait after the next failure: twice as long, up to the longest. -/
def Delay.doubled (delay : Delay) : Delay :=
  ⟨min (delay.span * 2) longest.span,
    Nat.lt_min.mpr ⟨Nat.mul_pos delay.span_pos (by decide), longest.span_pos⟩⟩

/-- What the supervisor does next. -/
inductive Stage
  | connect
  | health
  /-- An attempt to revive the connection, counted from zero, and the wait after it if it fails. -/
  | reconnect (attempt : Nat) (delay : Delay)
  /-- Giving up the connection. -/
  | giveUp
  deriving DecidableEq, Repr

/-- What the supervisor does to the application. -/
inductive Action
  /-- Makes the connection available; this ends degraded mode. -/
  | install
  /-- Takes the connection away; this begins degraded mode. -/
  | remove
  | setDegraded (value : Bool)
  deriving DecidableEq, Repr

end Supervisor

/-- Where the supervisor stands. -/
structure Supervisor where
  stage : Supervisor.Stage := .connect
  /-- The wait after the next failure to connect, or after the loss of the connection. -/
  delay : Supervisor.Delay := .initial
  deriving DecidableEq, Repr

namespace Supervisor

/-- The stage after an attempt to revive the connection has failed. -/
def afterAttempt (attempt : Nat) (delay : Delay) : Stage :=
  if attempt + 1 < reconnectLimit then .reconnect (attempt + 1) delay.doubled else .giveUp

/-- Does what is next, with success or without: where the supervisor stands then, what is done to
the application, and the wait until it goes on. Giving up always succeeds. -/
def step (supervisor : Supervisor) (success : Bool) : Supervisor × List Action × Span :=
  match supervisor.stage, success with
  | .connect, true => (⟨.health, .initial⟩, [.install], 0)
  | .connect, false => (⟨.connect, supervisor.delay.doubled⟩, [], supervisor.delay.span)
  | .health, true => (⟨.health, supervisor.delay⟩, [.setDegraded false], healthInterval)
  | .health, false => (⟨.reconnect 0 .initial, supervisor.delay⟩, [], 0)
  | .reconnect _ _, true => (⟨.health, supervisor.delay⟩, [.setDegraded false], healthInterval)
  | .reconnect attempt delay, false =>
    (⟨afterAttempt attempt delay, supervisor.delay⟩,
      if attempt = 0 then [.setDegraded true] else [], delay.span)
  | .giveUp, _ => (⟨.connect, supervisor.delay.doubled⟩, [.remove], supervisor.delay.span)

/-- How many steps without a wait can follow a stage. -/
def Stage.rank : Stage → Nat
  | .connect => 2
  | .health => 1
  | .reconnect _ _ => 0
  | .giveUp => 0

/-- No stage is followed by more than two steps without a wait. -/
theorem Stage.rank_le (stage : Stage) : stage.rank ≤ 2 := by
  cases stage <;> simp [rank]

/-- A step is followed by a wait or by a stage closer to one. -/
theorem step_progress (supervisor : Supervisor) (success : Bool) :
    0 < (supervisor.step success).2.2 ∨
      (supervisor.step success).1.stage.rank < supervisor.stage.rank := by
  obtain ⟨stage, delay⟩ := supervisor
  cases stage <;> cases success
  case connect.false => exact Or.inl delay.span_pos
  case connect.true => exact Or.inr (by decide : 1 < 2)
  case health.false => exact Or.inr (by decide : 0 < 1)
  case health.true => exact Or.inl (by decide : 0 < healthInterval)
  case reconnect.false attempt wait => exact Or.inl wait.span_pos
  case reconnect.true => exact Or.inl (by decide : 0 < healthInterval)
  case giveUp.false => exact Or.inl delay.span_pos
  case giveUp.true => exact Or.inl delay.span_pos

/-! ### The supervisor on a clock -/

/-- How a connection answers, each list in turn; after that it is healthy and cannot be revived. -/
structure Connection where
  health : List Bool := []
  reconnect : List Bool := []
  deriving DecidableEq, Repr

/-- What a call of the supervisor is. -/
inductive Call
  | connect
  | health
  | reconnect
  deriving DecidableEq, Repr

/-- The supervisor, its clock, and what it has done to the application so far. -/
structure World where
  supervisor : Supervisor := {}
  /-- When the supervisor goes on. -/
  wakesAt : Span := 0
  /-- How the attempts to connect will end; once used up, they fail. -/
  connections : List (Option Connection) := []
  /-- The connection made last. -/
  current : Connection := {}
  installed : Bool := false
  degraded : Bool := true
  /-- The calls made, when, and whether they succeeded. -/
  calls : List (Span × Call × Bool) := []
  /-- The changes of the degraded mode, and when. -/
  announced : List (Span × Bool) := []

namespace World

/-- Sets the degraded flag, and announces it when it changes. -/
def setDegraded (world : World) (value : Bool) : World :=
  if world.degraded = value then world
  else
    { world with
      degraded := value
      announced := world.announced ++ [(world.wakesAt, value)] }

/-- Does an action to the application. -/
def perform (world : World) : Action → World
  | .install => { world with installed := true }.setDegraded false
  | .remove => { world with installed := false }.setDegraded true
  | .setDegraded value => world.setDegraded value

/-- Notes a call. -/
def note (world : World) (call : Call) (success : Bool) : World :=
  { world with calls := world.calls ++ [(world.wakesAt, call, success)] }

/-- Makes the call of the next stage, and tells whether it succeeds. -/
def makeCall (world : World) : Bool × World :=
  match world.supervisor.stage with
  | .connect =>
    match world.connections with
    | some connection :: later =>
      (true, { world with connections := later, current := connection }.note .connect true)
    | none :: later => (false, { world with connections := later }.note .connect false)
    | [] => (false, world.note .connect false)
  | .health =>
    let healthy := world.current.health.headD true
    (healthy,
      { world with current := { world.current with health := world.current.health.drop 1 } }.note
        .health healthy)
  | .reconnect _ _ =>
    let revived := world.current.reconnect.headD false
    (revived,
      { world with
        current := { world.current with reconnect := world.current.reconnect.drop 1 } }.note
        .reconnect revived)
  | .giveUp => (true, world)

/-- Lets the supervisor go on once: it makes a call, acts on the application, and waits. -/
def wake (world : World) : World :=
  let (success, asked) := world.makeCall
  let (supervisor, actions, wait) := world.supervisor.step success
  let acted := actions.foldl perform asked
  { acted with supervisor, wakesAt := world.wakesAt + wait }

/-- The supervisor goes on after the wait that its step asks for. -/
theorem wakesAt_wake (world : World) :
    world.wake.wakesAt =
      world.wakesAt + (world.supervisor.step world.makeCall.1).2.2 := rfl

/-- The supervisor stands where its step leads. -/
theorem supervisor_wake (world : World) :
    world.wake.supervisor = (world.supervisor.step world.makeCall.1).1 := rfl

/-- How often the supervisor can go on at most before it waits for an instant after a target. -/
def stepsLeft (target : Span) (world : World) : Nat :=
  3 * (target + 1 - world.wakesAt) + world.supervisor.stage.rank

/-- Going on brings the supervisor closer to waiting for an instant after `target`. -/
theorem stepsLeft_wake {target : Span} {world : World} (due : world.wakesAt ≤ target) :
    stepsLeft target world.wake < stepsLeft target world := by
  have bound := (world.supervisor.step world.makeCall.1).1.stage.rank_le
  have progress := step_progress world.supervisor world.makeCall.1
  simp only [stepsLeft, wakesAt_wake, supervisor_wake]
  generalize (world.supervisor.step world.makeCall.1).2.2 = wait at *
  unfold Span at *
  omega

/-- Lets the supervisor go on until it waits for an instant after `target`. -/
def runUntil (target : Span) (world : World) : World :=
  if due : world.wakesAt ≤ target then
    have _closer := stepsLeft_wake due
    runUntil target world.wake
  else world
termination_by stepsLeft target world

end World
end Supervisor
end TimedQuiz
