/-
**Players and their cumulative counters.**

A player carries counters over all rounds. A graded answer counts as one attempt; a correct one
adds one to the correct answers and one point. The accuracy is the percentage of correct answers,
computed in double precision, and zero before the first attempt.

Counters are numbers of 32 bits. Here they are counted without a bound, so what is said of them
holds as long as none of them goes beyond `counterLimit`.
-/

namespace TimedQuiz

/-- The greatest number that a counter can hold. -/
def counterLimit : Nat := 0xFFFFFFFF

/-- The share of correct answers in percent, zero before the first attempt. -/
def accuracyOf (correct attempts : Nat) : Float :=
  if attempts = 0 then 0.0 else Float.ofNat correct * 100.0 / Float.ofNat attempts

/-- A player with the counters of every round so far, up to `counterLimit` each. -/
structure Player where
  username : String := ""
  /-- Points over every round. -/
  totalScore : Nat := 0
  /-- Correct answers over every round. -/
  correctAnswers : Nat := 0
  /-- Graded answers over every round. -/
  totalAttempts : Nat := 0
  deriving DecidableEq, Repr

namespace Player

/-- A player without any graded answer. -/
def fresh (username : String) : Player := { username }

/-- Counts one graded answer; only a correct one scores. -/
def recordAnswer (player : Player) (correct : Bool) : Player :=
  { player with
    totalAttempts := player.totalAttempts + 1
    correctAnswers := player.correctAnswers + correct.toNat
    totalScore := player.totalScore + correct.toNat }

/-- The percentage of correct answers over every round. -/
def accuracy (player : Player) : Float :=
  accuracyOf player.correctAnswers player.totalAttempts

end Player
end TimedQuiz
