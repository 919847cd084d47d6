/-
**How the coordinator handles what it is told.**

Each handler takes the readings of the clock it makes and the state, and gives an answer, the next
state and the effects in order.

* A round is started only when none is running; the start sets the countdown going and asks for the
  first puzzle.
* At most one puzzle is on its way: a request made while one is loading changes nothing. A failed
  fetch is tried again after a wait, as long as the round is active; the round counts as loading
  during the wait.
* An answer is graded against the puzzle on display. After a graded answer the next puzzle is
  requested with a delay; a later answer replaces the request.
* A round ends once: by request, by the countdown, or by anything else that finds it expired.
-/

import TimedQuiz.Coordinator.Basic

namespace TimedQuiz.Coordinator

/-! ### Ending a round -/

/-- Gives up the countdown, the follow-up and the retry that are set. -/
def cancelTimers (c : Coordinator) : Coordinator × List Effect :=
  ({ c with countdown := none, followUp := none, retry := none },
    (c.countdown.toList ++ c.followUp.toList ++ c.retry.toList).map .cancel)

/-- Ends the running round, and tells whether this very call did. -/
def finish (c : Coordinator) : Bool × Coordinator × List Effect :=
  match c.hasEnded, c.phase, c.round with
  | false, .running, some round =>
    let closed := round.close
    let closing :=
      { c with hasEnded := true, phase := c.phase.advance .beginEnd, round := some closed }
    let (quiet, cancellations) := closing.cancelTimers
    (true, { quiet with phase := quiet.phase.advance .finishEnd },
      cancellations ++ [.publish (.roundEnded closed.player closed.summary)])
  | _, _, _ => (false, c, [])

/-! ### Loading puzzles -/

/-- Asks for the next puzzle. -/
def requestNext (now : Span) (c : Coordinator) : Loading × Coordinator × List Effect :=
  if c.phase ≠ .running then (.notRunning, c, [])
  else if c.loading then (.alreadyLoading, c, [])
  else if c.isActive now then
    (.started, { c with loading := true, nextTicket := c.nextTicket + 1 },
      [.fetch c.nextTicket c.generation])
  else
    let (_, ended, effects) := c.finish
    (.expired, ended, effects)

/-- A fetch has completed: its puzzle goes on display, or the fetch is tried again later. -/
def fetched (timings : Timings) (now : Span) (c : Coordinator) (generation : Nat)
    (outcome : Option Puzzle) : Coordinator × List Effect :=
  if generation ≠ c.generation then (c, [])
  else if c.phase = .running ∧ c.isActive now then
    match outcome with
    | some puzzle =>
      ({ c with loading := false, round := c.round.map fun round => round.display puzzle },
        [.publish (.puzzleLoaded puzzle)])
    | none =>
      ({ c with retry := some c.nextTicket, nextTicket := c.nextTicket + 1 },
        [.remind c.nextTicket timings.retryDelay (.retryDue generation)])
  else ({ c with loading := false }, [])

/-! ### Starting a round -/

/-- Starts a round for a player. The clock is read when the round is opened, when its first puzzle
is asked for, and for the view. -/
def start (timings : Timings) (watch : Watch) (c : Coordinator) (player : Player) :
    Except Phase.InvalidTransition Snapshot × Coordinator × List Effect :=
  match c.phase.apply .start with
  | .error refusal => (.error refusal, c, [])
  | .ok phase =>
    let (quiet, cancellations) := { c with phase }.cancelTimers
    let round := Round.openedAt player timings.round (watch.reading 0)
    let opened :=
      { quiet with
        generation := quiet.generation + 1
        round := some round
        hasEnded := false
        loading := false
        countdown := some quiet.nextTicket
        nextTicket := quiet.nextTicket + 1 }
    let (_, ready, effects) := opened.requestNext (watch.reading 1)
    (.ok (ready.view (watch.reading 2) (watch.reading 3)), ready,
      cancellations ++
        [.publish (.roundStarted player),
          .countDown quiet.nextTicket opened.generation round.clock] ++
        effects)

/-! ### Answers -/

/-- Sets the follow-up of a graded answer in place of an earlier one. -/
def scheduleFollowUp (timings : Timings) (c : Coordinator) : Coordinator × List Effect :=
  let sequence := c.followUpSequence + 1
  ({ c with
      followUpSequence := sequence
      followUp := some c.nextTicket
      nextTicket := c.nextTicket + 1 },
    c.followUp.toList.map .cancel ++
      [.remind c.nextTicket timings.followUpDelay (.followUpDue c.generation sequence)])

/-- Grades a submitted value. The clock is read once before the value is looked at and once more for
the grading itself. -/
def submit (timings : Timings) (before during : Span) (c : Coordinator) (value : Int) :
    Grading × Coordinator × List Effect :=
  match decide (c.phase = .running) && c.isActive before, c.round with
  | true, some round =>
    match round.puzzle with
    | none => (.noPuzzle, c, [])
    | some _ =>
      let (correct, graded) := round.grade during value
      let (ready, effects) := { c with round := some graded }.scheduleFollowUp timings
      (.graded correct, ready,
        [.publish (.answerGraded value correct graded.player),
          .publish (.scoreChanged graded.player)] ++ effects)
  | _, _ =>
    let (_, ended, effects) := c.finish
    (.inactive, ended, effects)

/-! ### All commands -/

/-- Handles one command while the clock moves as the watch says. -/
def handle (timings : Timings) (watch : Watch) (c : Coordinator) :
    Command → Reply × Coordinator × List Effect
  | .start player =>
    let (result, next, effects) := c.start timings watch player
    (.started result, next, effects)
  | .submit value =>
    let (grading, next, effects) := c.submit timings (watch.reading 0) (watch.reading 1) value
    (.submitted grading, next, effects)
  | .next =>
    let (loading, next, effects) := c.requestNext (watch.reading 0)
    (.requested loading, next, effects)
  | .finish =>
    let (ended, next, effects) := c.finish
    (.finished ended, next, effects)
  | .look => (.seen (c.view (watch.reading 0) (watch.reading 1)), c, [])
  | .fetched generation outcome =>
    let (next, effects) := c.fetched timings (watch.reading 0) generation outcome
    (.silent, next, effects)
  | .retryDue generation =>
    if generation = c.generation then
      let (_, next, effects) :=
        { c with retry := none, loading := false }.requestNext (watch.reading 0)
      (.silent, next, effects)
    else (.silent, c, [])
  | .followUpDue generation sequence =>
    if generation = c.generation ∧ sequence = c.followUpSequence then
      let (_, next, effects) := { c with followUp := none }.requestNext (watch.reading 0)
      (.silent, next, effects)
    else (.silent, c, [])
  | .tick generation remaining =>
    if generation = c.generation ∧ c.phase = .running then
      (.silent, c, [.publish (.tick remaining)])
    else (.silent, c, [])
  | .expired generation =>
    if generation = c.generation then
      let (_, next, effects) := c.finish
      (.silent, next, effects)
    else (.silent, c, [])

end TimedQuiz.Coordinator
