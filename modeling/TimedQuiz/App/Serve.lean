/-
**Serving requests.**

Each action has a small function that does it and says what came of it; the response is made of
that. Starting a round takes three steps: what earlier rounds have queued is written, the player
logs in and is given the stored counters, and the coordinator is told to start.

An action that asks the coordinator twice goes on after its first question only when everything has
happened that can happen at this instant. So the view of the round beside a verdict shows a load
that the answer itself has set off.
-/

import TimedQuiz.Account
import TimedQuiz.App.Action
import TimedQuiz.App.Basic
import TimedQuiz.Leaderboard
import TimedQuiz.Wire

namespace TimedQuiz.App

open Coordinator (Grading Loading)

/-! ### What the coordinator is asked -/

/-- How things stand. -/
def look (app : App) : Except Trouble Snapshot × App :=
  match app.ask .look with
  | (.seen snapshot, next) => (.ok snapshot, next)
  | (_, next) => (.error .stopped, next)

/-- Starts a round for a player. -/
def startRound (app : App) (player : Player) : Except Trouble Snapshot × App :=
  match app.ask (.start player) with
  | (.started (.ok snapshot), next) => (.ok snapshot, next)
  | (.started (.error refusal), next) => (.error (.ofInvalidTransition refusal), next)
  | (_, next) => (.error .stopped, next)

/-- Submits an answer. -/
def submit (app : App) (value : Int) : Except Trouble Grading × App :=
  match app.ask (.submit value) with
  | (.submitted grading, next) => (.ok grading, next)
  | (_, next) => (.error .stopped, next)

/-- Asks for the next puzzle. -/
def skip (app : App) : Except Trouble Loading × App :=
  match app.ask .next with
  | (.requested loading, next) => (.ok loading, next)
  | (_, next) => (.error .stopped, next)

/-- Ends the round. -/
def finish (app : App) : Except Trouble Bool × App :=
  match app.ask .finish with
  | (.finished ended, next) => (.ok ended, next)
  | (_, next) => (.error .stopped, next)

/-! ### Actions -/

/-- Goes on with what a step has brought, unless it has run into trouble. -/
def andThen {α β : Type} (first : Except Trouble α × App)
    (second : α → App → Except Trouble β × App) : Except Trouble β × App :=
  match first with
  | (.ok value, app) => second value app
  | (.error trouble, app) => (.error trouble, app)

/-- Writes what is queued, logs the player in, and starts a round with the stored counters. -/
def logInAndStart (app : App) (credentials : Credentials) : Except Trouble Snapshot × App :=
  let ready := app.flush
  andThen (ready.serveStored (Account.authenticate ready.wall credentials)) fun record next =>
    next.startRound record.stats

/-- Submits an answer and looks at the round, in which the load of the next puzzle may have begun or
even ended by then. -/
def submitAndLook (app : App) (value : Int) : Except Trouble (Grading × Snapshot) × App :=
  andThen (app.submit value) fun grading next =>
    andThen next.look fun snapshot last => (.ok (grading, snapshot), last)

/-- Ends the round and looks at it. -/
def finishAndLook (app : App) : Except Trouble (Bool × Snapshot) × App :=
  andThen app.finish fun ended next =>
    andThen next.look fun snapshot last => (.ok (ended, snapshot), last)

/-- The puzzle on display. -/
def currentPuzzle (app : App) : Except Trouble Puzzle × App :=
  andThen app.look fun snapshot next =>
    match snapshot.puzzle with
    | some puzzle => (.ok puzzle, next)
    | none => (.error (.notFound "no puzzle is loaded"), next)

/-! ### Responses -/

/-- The response to a trouble. -/
def refuse (trouble : Trouble) : Http.Response :=
  let refusal := Refusal.ofTrouble trouble
  .json refusal.status refusal.toJson

/-- The response with what an action has brought. -/
def respond {α : Type} (result : Except Trouble α × App) (write : α → Http.Response) :
    Http.Response × App :=
  match result with
  | (.ok value, app) => (write value, app)
  | (.error trouble, app) => (refuse trouble, app)

/-- The response with a picture, which is not to be stored. -/
def pictureResponse (puzzle : Puzzle) : Http.Response :=
  { status := 200
    contentType := some puzzle.contentType
    cacheControl := some "no-store"
    body := .bytes puzzle.image }

/-- The media type of a stream. -/
def feedType : String := "text/event-stream"

/-- The response that opens a stream. -/
def feedResponse : Http.Response :=
  { status := 200, contentType := some feedType, cacheControl := some "no-cache" }

/-- Does an action and makes the response. -/
def perform (app : App) : Action → Http.Response × App
  | .health =>
    let (seen, next) := app.look
    (.json 200 (Wire.health app.degraded seen.isOk), next)
  | .openFeed => (feedResponse, app)
  | .register credentials =>
    respond (app.serveStored (Account.register app.wall credentials)) fun record =>
      .json 201 (Account.toJson record)
  | .login credentials =>
    respond (app.serveStored (Account.authenticate app.wall credentials)) fun record =>
      .json 200 (Account.toJson record)
  | .start credentials =>
    respond (app.logInAndStart credentials) fun snapshot => .json 200 snapshot.toJson
  | .look => respond app.look fun snapshot => .json 200 snapshot.toJson
  | .answer value =>
    respond (app.submitAndLook value) fun (grading, snapshot) =>
      .json 200 (Wire.answered grading snapshot)
  | .skip => respond app.skip fun loading => .json 200 (Wire.requested loading)
  | .finish =>
    respond app.finishAndLook fun (ended, snapshot) => .json 200 (Wire.finished ended snapshot)
  | .mute muted =>
    (.json 200 (Wire.muted muted), { app with sound := app.sound.setMuted muted })
  | .picture => respond app.currentPuzzle pictureResponse
  | .board limit =>
    respond (app.serveStored (Leaderboard.top limit)) fun board => .json 200 board.toJson
  | .standing username =>
    respond (app.serveStored (Leaderboard.standing username)) fun standing =>
      .json 200 standing.toJson

/-- Serves a request. -/
def serve (app : App) (request : Http.Request) : Http.Response × App :=
  match Action.ofRequest request with
  | .error rejection => ({ status := rejection.status }, app)
  | .ok action =>
    let (response, next) := app.perform action
    (if request.method = .head then response.headOnly else response, next)

end TimedQuiz.App
