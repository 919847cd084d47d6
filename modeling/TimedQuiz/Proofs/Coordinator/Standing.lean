/-
**How things stand is what the log tells.**

The coordinator keeps counters of its own, for the round and for its player, and displays a puzzle.
None of this adds anything to what it has announced:

* `snapshot_of_log`: as long as the clock stands still while one command is handled, every view of
  the coordinator can be read off the log, and so can everything that an event carries.

The two readings of the clock in a submission have to agree for this. The one that lets the answer
pass and the one that counts it would otherwise differ at the very end of a round.
-/

import TimedQuiz.Proofs.Coordinator.Move
import TimedQuiz.Proofs.Log
import TimedQuiz.Proofs.Round

namespace TimedQuiz.Coordinator

/-! ### The invariant -/

/-- The books of the coordinator and the log agree. -/
structure Agrees (c : Coordinator) (log : List Event) : Prop where
  phase : c.phase = Log.phase log
  player : c.round.map Round.player = Log.player? log
  puzzle : c.round.bind Round.puzzle = Log.puzzle? log
  score : c.round.elim 0 Round.score = Log.score log
  attempts : c.round.elim 0 Round.attempts = Log.attempts log
  fits : Log.Fits log

/-- In the beginning nothing has been announced and nothing is known. -/
theorem agrees_initial : Agrees {} [] where
  phase := rfl
  player := rfl
  puzzle := rfl
  score := rfl
  attempts := rfl
  fits before event after split := by simp at split

namespace Agrees

variable {c next : Coordinator} {log : List Event}

/-- A move that announces nothing and touches neither the phase nor the round. -/
theorem silent (agrees : Agrees c log) {effects : List Effect} (quiet : published effects = [])
    (phase : next.phase = c.phase) (round : next.round = c.round) :
    Agrees next (log ++ published effects) := by
  rw [quiet, List.append_nil]
  exact
    { phase := phase.trans agrees.phase
      player := by rw [round]; exact agrees.player
      puzzle := by rw [round]; exact agrees.puzzle
      score := by rw [round]; exact agrees.score
      attempts := by rw [round]; exact agrees.attempts
      fits := agrees.fits }

/-- Events that carry no account change no counter. -/
theorem announce (agrees : Agrees c log) (running : c.phase = .running) {event : Event}
    (going : event.starter? = none) (same : event.phase? = none) (other : event.isAnswer = false)
    (puzzle : event.puzzle? = none) (fits : Log.FitsAfter log event) :
    Agrees c (log ++ [event]) := by
  have wrong : event.isCorrect = false := by
    cases correct : event.isCorrect with
    | false => rfl
    | true => rw [Event.isAnswer_of_isCorrect correct] at other; exact other
  exact
    { phase := by
        rw [Log.phase_concat_running (agrees.phase.symm.trans running) same, running]
      player := by
        rw [Log.player?_concat going, ← agrees.player, wrong, other]
        cases c.round <;> rfl
      puzzle := by rw [Log.puzzle?_concat going, puzzle, Option.none_or, agrees.puzzle]
      score := by rw [Log.score_concat going, wrong, agrees.score]; rfl
      attempts := by rw [Log.attempts_concat going, other, agrees.attempts]; rfl
      fits := agrees.fits.concat fits }

theorem opening (agrees : Agrees c log) (player : Player) (duration now : Span)
    (phase : next.phase = .running)
    (round : next.round = some (Round.openedAt player duration now)) :
    Agrees next (log ++ [.roundStarted player]) where
  phase := phase.trans (Log.phase_concat_some rfl).symm
  player := by
    rw [round, Log.player?, Log.starter?_concat, Log.score, Log.attempts,
      Log.sinceStart_concat_start]
    rfl
  puzzle := by
    rw [round, Log.puzzle?, Log.sinceStart_concat_start]
    rfl
  score := by
    rw [round, Log.score, Log.sinceStart_concat_start]
    rfl
  attempts := by
    rw [round, Log.attempts, Log.sinceStart_concat_start]
    rfl
  fits := agrees.fits.concat trivial

theorem closing (agrees : Agrees c log) {round : Round} (present : c.round = some round)
    (phase : next.phase = .ended) (closed : next.round = some round.close) :
    Agrees next (log ++ [.roundEnded round.close.player round.close.summary]) := by
  have player := agrees.player
  have puzzle := agrees.puzzle
  have score := agrees.score
  have attempts := agrees.attempts
  rw [present] at player puzzle score attempts
  exact
    { phase := phase.trans (Log.phase_concat_some rfl).symm
      player := by
        rw [closed, Log.player?_concat rfl, ← player]
        rfl
      puzzle := by
        rw [closed, Log.puzzle?_concat rfl, ← puzzle]
        rfl
      score := by
        rw [closed, Log.score_concat rfl, ← score]
        rfl
      attempts := by
        rw [closed, Log.attempts_concat rfl, ← attempts]
        rfl
      fits := agrees.fits.concat ⟨player.symm, score, attempts⟩ }

theorem displaying (agrees : Agrees c log) (running : c.phase = .running) {round : Round}
    (present : c.round = some round) (puzzle : Puzzle) (phase : next.phase = c.phase)
    (displayed : next.round = some (round.display puzzle)) :
    Agrees next (log ++ [.puzzleLoaded puzzle]) := by
  have player := agrees.player
  have score := agrees.score
  have attempts := agrees.attempts
  rw [present] at player score attempts
  exact
    { phase := by
        rw [phase, running, Log.phase_concat_running (agrees.phase.symm.trans running) rfl]
      player := by
        rw [displayed, Log.player?_concat rfl, ← player]
        rfl
      puzzle := by
        rw [displayed, Log.puzzle?_concat rfl]
        rfl
      score := by
        rw [displayed, Log.score_concat rfl, ← score]
        rfl
      attempts := by
        rw [displayed, Log.attempts_concat rfl, ← attempts]
        rfl
      fits := agrees.fits.concat trivial }

/-- A counted answer: the event carries the player after counting. -/
theorem grading (agrees : Agrees c log) (running : c.phase = .running) {round : Round}
    {puzzle : Puzzle} (present : c.round = some round) (shown : round.puzzle = some puzzle)
    (value : Int) (phase : next.phase = c.phase)
    (counted : next.round = some (round.record (decide (puzzle.solution = value)))) :
    Agrees next
      (log ++ [.answerGraded value (decide (puzzle.solution = value))
        (round.record (decide (puzzle.solution = value))).player]) := by
  have player := agrees.player
  have displayed := agrees.puzzle
  have score := agrees.score
  have attempts := agrees.attempts
  rw [present] at player displayed score attempts
  have carried : Log.player? (log ++ [.answerGraded value (decide (puzzle.solution = value))
      (round.record (decide (puzzle.solution = value))).player]) =
      some (round.record (decide (puzzle.solution = value))).player := by
    rw [Log.player?_concat rfl, ← player]
    rfl
  exact
    { phase := by
        rw [phase, running, Log.phase_concat_running (agrees.phase.symm.trans running) rfl]
      player := by rw [counted, carried]; rfl
      puzzle := by
        rw [counted, Log.puzzle?_concat rfl, ← displayed]
        rfl
      score := by
        rw [counted, Log.score_concat rfl, ← score]
        rfl
      attempts := by
        rw [counted, Log.attempts_concat rfl, ← attempts]
        rfl
      fits := agrees.fits.concat ⟨⟨puzzle, displayed.symm.trans shown, rfl⟩, carried⟩ }

end Agrees

/-- **Every move keeps the books and the log in agreement**, if the clock stands still. -/
theorem Move.agrees {timings : Timings} {now : Span} {arrival : Bool} {c next : Coordinator}
    {effects : List Effect} {log : List Event}
    (move : Move timings (.still now) arrival c effects next) (agrees : Agrees c log) :
    Agrees next (log ++ published effects) := by
  cases move with
  | opening player resting =>
    rw [published_append, published_cancelTimers]
    exact agrees.opening player _ _ rfl rfl
  | @closing _ round running present fresh =>
    rw [published_append, published_cancelTimers]
    exact agrees.closing present rfl rfl
  | fetching number running free active => exact agrees.silent rfl rfl rfl
  | @grading _ round puzzle value running present shown active =>
    rw [Watch.reading_still] at active
    simp only [Watch.reading_still, Round.grade_of_active value active shown]
    let counted := round.record (decide (puzzle.solution = value))
    have graded : Agrees { c with round := some counted } _ :=
      agrees.grading running present shown value rfl rfl
    have told : Agrees { c with round := some counted } (_ ++ [.scoreChanged counted.player]) :=
      graded.announce running rfl rfl rfl rfl trivial
    rwa [List.append_assoc] at told
  | scheduling running => exact agrees.silent (published_scheduleFollowUp c timings) rfl rfl
  | following => exact agrees.silent rfl rfl rfl
  | ticking remaining running => exact agrees.announce running rfl rfl rfl rfl trivial
  | @displaying _ round puzzle running present active =>
    exact agrees.displaying running present puzzle rfl rfl
  | postponing running active => exact agrees.silent rfl rfl rfl
  | discarding late => exact agrees.silent rfl rfl rfl
  | resuming => exact agrees.silent rfl rfl rfl

/-! ### The main result -/

/-- Some commands, each handled at an instant. -/
def atInstants (moments : List (Span × Command)) : List (Watch × Command) :=
  moments.map fun moment => (.still moment.1, moment.2)

theorem agrees_of_run (timings : Timings) (moments : List (Span × Command)) :
    Agrees (Run.of timings (atInstants moments)).coordinator
      (Run.of timings (atInstants moments)).log := by
  refine Run.preserves _ agrees_initial ?_
  intro input member arrival c next effects log move agrees
  obtain ⟨moment, _, rfl⟩ := List.mem_map.mp member
  exact move.agrees agrees

/-- **A view of the coordinator is what its log tells**, and every announced answer and every
announced end fits the log before it. -/
theorem snapshot_of_log (timings : Timings) (moments : List (Span × Command)) (now : Span) :
    let run := Run.of timings (atInstants moments)
    let view := run.coordinator.snapshot now
    view.phase = Log.phase run.log ∧
      view.score = Log.score run.log ∧
      view.attempts = Log.attempts run.log ∧
      view.score ≤ view.attempts ∧
      view.player = Log.player? run.log ∧
      view.puzzle = Log.puzzle? run.log ∧
      Log.Fits run.log := by
  intro run view
  have agrees : Agrees run.coordinator run.log := agrees_of_run timings moments
  have phase : view.phase = run.coordinator.phase := view_phase ..
  have score : view.score = run.coordinator.round.elim 0 Round.score := view_score ..
  have attempts : view.attempts = run.coordinator.round.elim 0 Round.attempts := view_attempts ..
  have player : view.player = run.coordinator.round.map Round.player := view_player ..
  have puzzle : view.puzzle = run.coordinator.round.bind Round.puzzle := view_puzzle ..
  refine ⟨phase.trans agrees.phase, score.trans agrees.score, attempts.trans agrees.attempts, ?_,
    player.trans agrees.player, puzzle.trans agrees.puzzle, agrees.fits⟩
  rw [score, agrees.score, attempts, agrees.attempts]
  exact Log.score_le_attempts run.log

end TimedQuiz.Coordinator
