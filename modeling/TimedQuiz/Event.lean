/-
**What the quiz announces.**

Events tell the story of a round to everyone who listens: the round is opened, puzzles appear,
answers are graded, the time left is told, the round is over. Each event has a kind, and listeners
register by kind.
-/

import TimedQuiz.Round

namespace TimedQuiz

/-- Something that happened in the quiz. -/
inductive Event
  | roundStarted (player : Player)
  | puzzleLoaded (puzzle : Puzzle)
  | answerGraded (value : Int) (correct : Bool) (player : Player)
  | scoreChanged (player : Player)
  | roundEnded (player : Player) (summary : Summary)
  | tick (remaining : Span)
  deriving DecidableEq, Repr

namespace Event

/-- The kinds of events. -/
inductive Kind
  | roundStarted
  | puzzleLoaded
  | answerGraded
  | scoreChanged
  | roundEnded
  | tick
  deriving DecidableEq, Repr

/-- Every kind, in the order in which a round usually brings them. -/
def Kind.all : List Kind :=
  [.roundStarted, .puzzleLoaded, .answerGraded, .scoreChanged, .roundEnded, .tick]

/-- The kind of an event. -/
def kind : Event → Kind
  | roundStarted _ => .roundStarted
  | puzzleLoaded _ => .puzzleLoaded
  | answerGraded _ _ _ => .answerGraded
  | scoreChanged _ => .scoreChanged
  | roundEnded _ _ => .roundEnded
  | tick _ => .tick

/-- Every kind is listed. -/
theorem Kind.mem_all (kind : Kind) : kind ∈ Kind.all := by
  cases kind <;> decide

end Event
end TimedQuiz
