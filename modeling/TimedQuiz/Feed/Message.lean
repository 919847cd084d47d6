/-
**Messages of the live feed.**

A message has a name and a data text in JSON. Each event of the quiz has one form as a message; the
form of a loaded puzzle tells where to fetch the picture and how large it is, and nothing about the
solution.
-/

import TimedQuiz.Sound
import TimedQuiz.Timestamp
import TimedQuiz.Json

namespace TimedQuiz

/-- The path under which the picture of the current puzzle is served. -/
def pictureLocation : String := "/session/item/image"

/-- What clients are told about a player. -/
def Player.toJson (player : Player) : Json :=
  .object [
    ("username", .text player.username),
    ("total_score", .whole player.totalScore),
    ("correct_answers", .whole player.correctAnswers),
    ("total_attempts", .whole player.totalAttempts),
    ("accuracy", .real player.accuracy)]

namespace Feed

/-- A message for every device that follows the quiz. -/
structure Message where
  event : Option String
  data : String
  deriving DecidableEq, Repr

namespace Message

/-- A named message with a JSON value as data. -/
def named (event : String) (data : Json) : Message := { event := some event, data := data.render }

/-- The message of an event of the quiz, written at a point in time. -/
def ofEvent (wall : Timestamp) : Event → Message
  | .roundStarted player => named "session.started" (.object [("player", player.toJson)])
  | .puzzleLoaded puzzle =>
    named "item.loaded" (.object [
      ("image_url", .text pictureLocation),
      ("image_size", .whole puzzle.image.length)])
  | .answerGraded value correct player =>
    named "answer.submitted" (.object [
      ("value", .whole value),
      ("correct", .bool correct),
      ("player", player.toJson)])
  | .scoreChanged player => named "score.updated" (.object [("player", player.toJson)])
  | .roundEnded player summary =>
    named "session.ended" (.object [
      ("player", player.toJson),
      ("score", .whole summary.score),
      ("attempts", .whole summary.attempts),
      ("accuracy", .real summary.accuracy),
      ("passed", .bool summary.passed),
      ("ended_at", .text wall.text)])
  | .tick remaining =>
    named "tick" (.object [
      ("remaining_ms", .whole remaining.shownMillis),
      ("remaining_secs", .whole remaining.shownSeconds)])

/-- The message of a sound cue. -/
def ofCue (cue : Cue) : Message := named "sound" (.object [("cue", .text cue.name)])

/-- The message of a change between normal and degraded operation. -/
def systemStatus (degraded : Bool) : Message :=
  named "system_status" (.object [("degraded", .bool degraded)])

/-- The first message of every stream. -/
def handshake (degraded : Bool) : Message :=
  named "handshake" (.object [("message", .text "stream connected"), ("degraded", .bool degraded)])

end Message
end Feed
end TimedQuiz
