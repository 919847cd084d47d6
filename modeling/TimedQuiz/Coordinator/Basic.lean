/-
**The coordinator of the rounds: its state and its words.**

The coordinator owns the round that is being played. It is told things one at a time: requests of
players, fetches that have completed, reminders it set for itself, and the observations of the
countdown. What it does to the outside is a list of effects, so that handling is a pure function and
whoever runs the coordinator carries the effects out.

Work that the coordinator starts gets a ticket, by which it can be cancelled. A number, the
generation, tells the rounds apart: whatever arrives with an older generation is left over from a
round that is no longer played.

Every question about time reads the clock anew, so the clock may show different times while one
command is handled.
-/

import TimedQuiz.Phase
import TimedQuiz.Event

namespace TimedQuiz

/-- The lengths of time that rule a round. -/
structure Timings where
  round : Span
  tick : Span
  /-- How long to wait after a failed fetch. -/
  retryDelay : Span
  /-- How long a graded answer stays on display before the next puzzle is fetched. -/
  followUpDelay : Span
  fetchTimeout : Span
  deriving DecidableEq, Repr

/-- The lengths of time used when nothing else is configured. -/
def Timings.standard : Timings :=
  { round := Span.ofMillis 30000
    tick := Span.ofMillis 100
    retryDelay := Span.ofMillis 1000
    followUpDelay := Span.ofMillis 800
    fetchTimeout := Span.ofMillis 10000 }

/-! ### The clock during a command -/

/-- How the clock moves while one command is handled. -/
structure Watch where
  /-- The first reading. -/
  start : Span
  /-- The time that goes by before each further reading. -/
  pauses : List Span := []
  deriving DecidableEq, Repr

namespace Watch

/-- A clock that stands still. -/
def still (now : Span) : Watch := { start := now }

/-- The reading with a number; the first one has the number zero. -/
def reading (watch : Watch) (number : Nat) : Span :=
  (watch.pauses.take number).foldl (· + ·) watch.start

/-- The time once the command has been handled. -/
def stop (watch : Watch) : Span := watch.pauses.foldl (· + ·) watch.start

@[simp]
theorem reading_still (now : Span) (number : Nat) : (still now).reading number = now := by
  simp [still, reading]

/-- No pause turns the clock back. -/
theorem le_foldl_add (pauses : List Span) (earlier : Span) :
    earlier ≤ pauses.foldl (· + ·) earlier := by
  induction pauses generalizing earlier with
  | nil => exact Nat.le_refl _
  | cons pause rest ih => exact Nat.le_trans (Nat.le_add_right _ _) (ih (earlier + pause))

theorem start_le_stop (watch : Watch) : watch.start ≤ watch.stop := le_foldl_add _ _

theorem start_le_reading (watch : Watch) (number : Nat) : watch.start ≤ watch.reading number :=
  le_foldl_add _ _

/-- No reading is later than the end. -/
theorem reading_le_stop (watch : Watch) (number : Nat) : watch.reading number ≤ watch.stop := by
  have parts : watch.stop =
      (watch.pauses.drop number).foldl (· + ·) (watch.reading number) := by
    rw [stop, reading, ← List.foldl_append, List.take_append_drop]
  rw [parts]
  exact le_foldl_add _ _

end Watch

/-! ### The coordinator -/

/-- A view of the coordinator and its current or last round. -/
structure Snapshot where
  phase : Phase
  player : Option Player
  puzzle : Option Puzzle
  score : Nat
  attempts : Nat
  accuracy : Float
  remaining : Span
  /-- The round accepts answers. -/
  active : Bool
  /-- The next puzzle is on its way. -/
  loading : Bool
  deriving DecidableEq, Repr

/-- The state of the coordinator. -/
structure Coordinator where
  phase : Phase := .idle
  round : Option Round := none
  /-- The number of the current round. -/
  generation : Nat := 0
  /-- A fetch of the current round, or a wait before one, is under way. -/
  loading : Bool := false
  /-- The end of the current round has been dealt with. -/
  hasEnded : Bool := false
  /-- The ticket of the next piece of work. -/
  nextTicket : Nat := 0
  /-- The number of the latest follow-up. -/
  followUpSequence : Nat := 0
  /-- The tickets of what has been set: the follow-up, the retry and the countdown. -/
  followUp : Option Nat := none
  retry : Option Nat := none
  countdown : Option Nat := none
  deriving DecidableEq, Repr

namespace Coordinator

/-- What the coordinator is told. -/
inductive Command
  | start (player : Player)
  | submit (value : Int)
  | next
  | finish
  | look
  /-- A fetch has completed, with nothing when it failed. -/
  | fetched (generation : Nat) (outcome : Option Puzzle)
  /-- The wait after a failed fetch is over. -/
  | retryDue (generation : Nat)
  /-- A graded answer has been on display long enough. -/
  | followUpDue (generation sequence : Nat)
  /-- The countdown has looked at the clock. -/
  | tick (generation : Nat) (remaining : Span)
  /-- The countdown has reached zero. -/
  | expired (generation : Nat)
  deriving DecidableEq, Repr

/-- What becomes of a submitted answer. -/
inductive Grading
  | graded (correct : Bool)
  /-- No puzzle is loaded yet; nothing was counted. -/
  | noPuzzle
  /-- No round is active; nothing was counted. -/
  | inactive
  deriving DecidableEq, Repr

/-- What becomes of a request for the next puzzle. -/
inductive Loading
  | started
  | alreadyLoading
  /-- The round had expired and was ended instead. -/
  | expired
  | notRunning
  deriving DecidableEq, Repr

/-- The answer to a command; what nobody asked for has none. -/
inductive Reply
  | started (result : Except Phase.InvalidTransition Snapshot)
  | submitted (grading : Grading)
  | requested (loading : Loading)
  | finished (ended : Bool)
  | seen (snapshot : Snapshot)
  | silent

/-- What the coordinator does to the outside. -/
inductive Effect
  | publish (event : Event)
  | fetch (ticket generation : Nat)
  | countDown (ticket generation : Nat) (clock : Clock)
  | remind (ticket : Nat) (delay : Span) (command : Command)
  /-- Cancels work that has not been done yet. -/
  | cancel (ticket : Nat)
  deriving DecidableEq, Repr

/-! ### Views -/

/-- The round exists and is active. -/
def isActive (c : Coordinator) (now : Span) : Bool := c.round.any fun round => round.isActive now

/-- How things stand: the time left is read first, and then whether the round is active. -/
def view (c : Coordinator) (first second : Span) : Snapshot :=
  match c.round with
  | some round =>
    { phase := c.phase
      player := some round.player
      puzzle := round.puzzle
      score := round.score
      attempts := round.attempts
      accuracy := round.accuracy
      remaining := round.remaining first
      active := c.phase == .running && round.isActive second
      loading := c.loading }
  | none =>
    { phase := c.phase
      player := none
      puzzle := none
      score := 0
      attempts := 0
      accuracy := 0.0
      remaining := 0
      active := false
      loading := false }

section View

variable (c : Coordinator) (first second : Span)

@[simp]
theorem view_phase : (c.view first second).phase = c.phase := by
  unfold view
  split <;> rfl

@[simp]
theorem view_player : (c.view first second).player = c.round.map Round.player := by
  unfold view
  split <;> rename_i present <;> rw [present] <;> rfl

@[simp]
theorem view_puzzle : (c.view first second).puzzle = c.round.bind Round.puzzle := by
  unfold view
  split <;> rename_i present <;> rw [present] <;> rfl

@[simp]
theorem view_score : (c.view first second).score = c.round.elim 0 Round.score := by
  unfold view
  split <;> rename_i present <;> rw [present] <;> rfl

@[simp]
theorem view_attempts : (c.view first second).attempts = c.round.elim 0 Round.attempts := by
  unfold view
  split <;> rename_i present <;> rw [present] <;> rfl

@[simp]
theorem view_remaining :
    (c.view first second).remaining = c.round.elim 0 fun round => round.remaining first := by
  unfold view
  split <;> rename_i present <;> rw [present] <;> rfl

@[simp]
theorem view_loading : (c.view first second).loading = (c.round.isSome && c.loading) := by
  unfold view
  split <;> rename_i present <;> rw [present] <;> rfl

end View

/-- How things stand at an instant. -/
def snapshot (c : Coordinator) (now : Span) : Snapshot := c.view now now

end Coordinator
end TimedQuiz
