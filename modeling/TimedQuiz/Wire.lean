/-
**What clients receive.**

The JSON forms of the answers about the current round, the sound and the health. A view of the round
tells whether a puzzle is shown, by the place of its picture, and never what its solution is.
-/

import TimedQuiz.Coordinator.Basic
import TimedQuiz.Feed.Message

namespace TimedQuiz

open Coordinator (Grading Loading)

/-- The view of the current or last round. -/
def Snapshot.toJson (snapshot : Snapshot) : Json :=
  .object [
    ("phase", .text snapshot.phase.name),
    ("player", Json.ofOption Player.toJson snapshot.player),
    ("image_url", Json.ofOption (fun _ => .text pictureLocation) snapshot.puzzle),
    ("score", .whole snapshot.score),
    ("attempts", .whole snapshot.attempts),
    ("accuracy", .real snapshot.accuracy),
    ("remaining_ms", .whole snapshot.remaining.shownMillis),
    ("active", .bool snapshot.active),
    ("loading", .bool snapshot.loading)]

/-- The word for what became of an answer. -/
def Coordinator.Grading.name : Grading → String
  | .graded true => "correct"
  | .graded false => "wrong"
  | .noPuzzle => "no_item"
  | .inactive => "inactive"

/-- The word for what became of a request for the next puzzle. -/
def Coordinator.Loading.name : Loading → String
  | .started => "loading"
  | .alreadyLoading => "already_loading"
  | .expired => "session_inactive"
  | .notRunning => "not_running"

namespace Wire

/-- The answer to a submitted answer: what became of it, and the round after it. -/
def answered (grading : Grading) (snapshot : Snapshot) : Json :=
  .object [("status", .text grading.name), ("session", snapshot.toJson)]

/-- The answer to a request for the next puzzle. -/
def requested (loading : Loading) : Json := .object [("status", .text loading.name)]

/-- The answer to a request to end the round: whether it did, and the round after it. -/
def finished (ended : Bool) (snapshot : Snapshot) : Json :=
  .object [("ended", .bool ended), ("session", snapshot.toJson)]

/-- The answer to a request to mute or unmute. -/
def muted (value : Bool) : Json := .object [("muted", .bool value)]

/-- The answer about the health: whether the application is degraded, and whether the coordinator
answers. -/
def health (degraded answers : Bool) : Json :=
  .object [
    ("status", .text (if degraded then "degraded" else "ok")),
    ("coordinator", .bool answers)]

end Wire
end TimedQuiz
