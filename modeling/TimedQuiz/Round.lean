/-
**A round of the quiz.**

A round belongs to one player, has a budget of time that starts running when the round is opened,
and shows at most one puzzle at a time. Answers count only while the round is active: not closed
and not expired. Every question about time takes the reading of the clock as an argument, so a
caller that reads the clock twice can be told apart from one that reads it once.
-/

import TimedQuiz.Span
import TimedQuiz.Player
import TimedQuiz.Puzzle

namespace TimedQuiz

/-! ### The clock of a round -/

/-- When a round was opened and how long it may last. -/
structure Clock where
  startedAt : Span
  duration : Span
  deriving DecidableEq, Repr

namespace Clock

/-- Time spent since the clock was started. -/
def elapsed (clock : Clock) (now : Span) : Span := now - clock.startedAt

/-- Time left, zero once the budget is used up. -/
def remaining (clock : Clock) (now : Span) : Span := clock.duration - clock.elapsed now

/-- The budget is used up. -/
def isExpired (clock : Clock) (now : Span) : Bool := clock.remaining now == 0

end Clock

/-! ### The round -/

/-- The accuracy in percent from which on a round counts as passed. -/
def passAccuracy : Float := 50.0

/-- The results of a round, with its counters. -/
structure Summary where
  score : Nat
  attempts : Nat
  accuracy : Float
  passed : Bool
  deriving DecidableEq, Repr

/-- The state of one round. The score and the attempts are counters, up to `counterLimit`. -/
structure Round where
  player : Player
  puzzle : Option Puzzle := none
  clock : Clock
  /-- Not yet closed. -/
  live : Bool := true
  /-- Correct answers of this round. -/
  score : Nat := 0
  /-- Graded answers of this round. -/
  attempts : Nat := 0
  deriving DecidableEq, Repr

namespace Round

/-- A round opened for a player at an instant. -/
def openedAt (player : Player) (duration now : Span) : Round :=
  { player, clock := { startedAt := now, duration } }

/-- Shows another puzzle. -/
def display (round : Round) (puzzle : Puzzle) : Round := { round with puzzle := some puzzle }

/-- Time spent since the round was opened. -/
def elapsed (round : Round) (now : Span) : Span := round.clock.elapsed now

/-- Time left, never negative. -/
def remaining (round : Round) (now : Span) : Span := round.clock.remaining now

/-- Neither closed nor expired. -/
def isActive (round : Round) (now : Span) : Bool := round.live && !round.clock.isExpired now

/-- Counts one graded answer for the round and for its player. -/
def record (round : Round) (correct : Bool) : Round :=
  { round with
    attempts := round.attempts + 1
    score := round.score + correct.toNat
    player := round.player.recordAnswer correct }

/-- Grades a value against the puzzle shown. Without a puzzle, or in a round that is not active,
the verdict is `false` and nothing is counted. -/
def grade (round : Round) (now : Span) (value : Int) : Bool × Round :=
  match round.isActive now, round.puzzle with
  | true, some puzzle =>
    let correct := decide (puzzle.solution = value)
    (correct, round.record correct)
  | _, _ => (false, round)

/-- Closes the round; closing twice is harmless. -/
def close (round : Round) : Round := { round with live := false }

/-- The percentage of correct answers of this round. -/
def accuracy (round : Round) : Float := accuracyOf round.score round.attempts

/-- The results of the round so far. -/
def summary (round : Round) : Summary :=
  { score := round.score
    attempts := round.attempts
    accuracy := round.accuracy
    passed := decide (passAccuracy ≤ round.accuracy) }

end Round
end TimedQuiz
