/-
**Sound cues.**

The players' devices are told which sounds to play: one for a right answer, one for a wrong one,
one for each whole second that comes up on the countdown, one for a round passed and one for a
round failed. A second that is already shown is not cued again, and zero never is. Muting hides the
cues from the devices without touching the memory of the second shown.
-/

import TimedQuiz.Event

namespace TimedQuiz

/-- A sound to play. -/
inductive Cue
  | correct
  | wrong
  | tick
  | achievement
  | gameOver
  deriving DecidableEq, Repr

/-- The name of a cue for the devices. -/
def Cue.name : Cue → String
  | .correct => "correct"
  | .wrong => "wrong"
  | .tick => "tick"
  | .achievement => "achievement"
  | .gameOver => "gameover"

/-- The memory of the cue player. -/
structure Sound where
  muted : Bool := false
  /-- The second cued last in this round. -/
  lastSecond : Option Nat := none
  deriving DecidableEq, Repr

namespace Sound

/-- The kinds of events that can bring a cue. -/
def kinds : List Event.Kind := [.roundStarted, .answerGraded, .roundEnded, .tick]

/-- The cue of an event, and the memory after it. -/
def cueFor (sound : Sound) : Event → Option Cue × Sound
  | .roundStarted _ => (none, { sound with lastSecond := none })
  | .answerGraded _ correct _ => (some (if correct then .correct else .wrong), sound)
  | .roundEnded _ summary => (some (if summary.passed then .achievement else .gameOver), sound)
  | .tick remaining =>
    let second := Span.shownSeconds remaining
    if second = 0 then (none, sound)
    else
      (if sound.lastSecond = some second then none else some .tick,
        { sound with lastSecond := some second })
  | .puzzleLoaded _ => (none, sound)
  | .scoreChanged _ => (none, sound)

/-- The cue sent to the devices for an event: none while muted. -/
def hear (sound : Sound) (event : Event) : Option Cue × Sound :=
  let (cue, next) := sound.cueFor event
  (if sound.muted then none else cue, next)

/-- Mutes or unmutes every later cue. -/
def setMuted (sound : Sound) (muted : Bool) : Sound := { sound with muted }

end Sound
end TimedQuiz
