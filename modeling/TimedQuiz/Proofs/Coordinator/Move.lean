/-
**Everything the coordinator can do, as elementary moves.**

However a command goes, the coordinator only ever makes a few kinds of moves: it opens or closes a
round, starts a fetch, displays a puzzle, grades an answer, and so on. `Move` lists them, each with
its guard, its effects and the state it leads to.

* `handle_moves`: a command that does not bring a load of the current round is a path of moves.
* `handle_fetched`, `handle_retryDue`: one that does begins with the move that takes the load in.
* `handle_holds`: what every move keeps, every handled command keeps.
* `Run.preserves`: what every move preserves holds of every run.
-/

import Mathlib.Data.List.Induction
import TimedQuiz.Coordinator.Run

namespace TimedQuiz.Coordinator

/-- The command brings a load of a round to its end: its fetch has completed, or the wait before its
next fetch is over. -/
def Command.isLoadOf (generation : Nat) : Command → Bool
  | fetched of _ => of == generation
  | retryDue of => of == generation
  | _ => false

/-! ### Moves -/

/-- One elementary move: the state before, the effects, the state after. The flag says whether the
move takes in a load that has come to its end. -/
inductive Move (timings : Timings) (watch : Watch) :
    Bool → Coordinator → List Effect → Coordinator → Prop
  /-- A round is opened and its countdown started. -/
  | opening {c : Coordinator} (player : Player) (resting : c.phase = .idle ∨ c.phase = .ended) :
      Move timings watch false c
        (c.cancelTimers.2 ++
          [.publish (.roundStarted player),
            .countDown c.nextTicket (c.generation + 1)
              { startedAt := watch.reading 0, duration := timings.round }])
        { c with
          phase := .running
          generation := c.generation + 1
          round := some (Round.openedAt player timings.round (watch.reading 0))
          hasEnded := false
          loading := false
          followUp := none
          retry := none
          countdown := some c.nextTicket
          nextTicket := c.nextTicket + 1 }
  /-- The running round is closed. -/
  | closing {c : Coordinator} {round : Round} (running : c.phase = .running)
      (present : c.round = some round) (fresh : c.hasEnded = false) :
      Move timings watch false c
        (c.cancelTimers.2 ++ [.publish (.roundEnded round.close.player round.close.summary)])
        { c with
          hasEnded := true
          phase := .ended
          round := some round.close
          countdown := none
          followUp := none
          retry := none }
  /-- A fetch is started. -/
  | fetching {c : Coordinator} (number : Nat) (running : c.phase = .running)
      (free : c.loading = false) (active : c.isActive (watch.reading number) = true) :
      Move timings watch false c [.fetch c.nextTicket c.generation]
        { c with loading := true, nextTicket := c.nextTicket + 1 }
  /-- An answer is graded against the puzzle on display. -/
  | grading {c : Coordinator} {round : Round} {puzzle : Puzzle} (value : Int)
      (running : c.phase = .running) (present : c.round = some round)
      (shown : round.puzzle = some puzzle) (active : round.isActive (watch.reading 0) = true) :
      Move timings watch false c
        [.publish (.answerGraded value (round.grade (watch.reading 1) value).1
            (round.grade (watch.reading 1) value).2.player),
          .publish (.scoreChanged (round.grade (watch.reading 1) value).2.player)]
        { c with round := some (round.grade (watch.reading 1) value).2 }
  /-- The follow-up of a graded answer is set. -/
  | scheduling {c : Coordinator} (running : c.phase = .running) :
      Move timings watch false c (c.scheduleFollowUp timings).2 (c.scheduleFollowUp timings).1
  /-- The follow-up has come. -/
  | following {c : Coordinator} : Move timings watch false c [] { c with followUp := none }
  /-- The time left is told. -/
  | ticking {c : Coordinator} (remaining : Span) (running : c.phase = .running) :
      Move timings watch false c [.publish (.tick remaining)] c
  /-- A fetched puzzle goes on display. -/
  | displaying {c : Coordinator} {round : Round} (puzzle : Puzzle) (running : c.phase = .running)
      (present : c.round = some round) (active : round.isActive (watch.reading 0) = true) :
      Move timings watch true c [.publish (.puzzleLoaded puzzle)]
        { c with loading := false, round := some (round.display puzzle) }
  /-- A failed fetch is to be tried again later. -/
  | postponing {c : Coordinator} (running : c.phase = .running)
      (active : c.isActive (watch.reading 0) = true) :
      Move timings watch true c
        [.remind c.nextTicket timings.retryDelay (.retryDue c.generation)]
        { c with retry := some c.nextTicket, nextTicket := c.nextTicket + 1 }
  /-- A fetch has completed too late to matter. -/
  | discarding {c : Coordinator}
      (late : ¬ (c.phase = .running ∧ c.isActive (watch.reading 0) = true)) :
      Move timings watch true c [] { c with loading := false }
  /-- The wait after a failed fetch is over. -/
  | resuming {c : Coordinator} :
      Move timings watch true c [] { c with retry := none, loading := false }

/-- A path of moves that take no load in. -/
inductive Moves (timings : Timings) (watch : Watch) :
    Coordinator → List Effect → Coordinator → Prop
  | rest (c : Coordinator) : Moves timings watch c [] c
  | step {c middle next : Coordinator} {first later : List Effect}
      (move : Move timings watch false c first middle)
      (moves : Moves timings watch middle later next) :
      Moves timings watch c (first ++ later) next

variable {timings : Timings} {watch : Watch}

theorem Moves.single {c next : Coordinator} {effects : List Effect}
    (move : Move timings watch false c effects next) : Moves timings watch c effects next := by
  have path := Moves.step move (.rest next)
  rwa [List.append_nil] at path

/-! ### The path of each handler -/

theorem finish_moves (c : Coordinator) :
    Moves timings watch c c.finish.2.2 c.finish.2.1 := by
  unfold finish
  split
  · rename_i fresh running present
    simp only [cancelTimers, running, Phase.advance, Phase.apply]
    exact .single (.closing running present fresh)
  · exact .rest c

theorem requestNext_moves (c : Coordinator) (number : Nat) :
    Moves timings watch c (c.requestNext (watch.reading number)).2.2
      (c.requestNext (watch.reading number)).2.1 := by
  unfold requestNext
  split
  · exact .rest c
  · rename_i running
    split
    · exact .rest c
    · rename_i free
      split
      · rename_i active
        exact .single (.fetching number (Decidable.not_not.mp running) (eq_false_of_ne_true free)
          active)
      · exact finish_moves c

theorem start_moves (c : Coordinator) (player : Player) :
    Moves timings watch c (c.start timings watch player).2.2
      (c.start timings watch player).2.1 := by
  unfold start
  split
  · exact .rest c
  · rename_i phase applied
    obtain ⟨resting, rfl⟩ := Phase.of_apply_start applied
    exact .step (.opening player resting) (requestNext_moves _ 1)

theorem submit_moves (c : Coordinator) (value : Int) :
    Moves timings watch c (c.submit timings (watch.reading 0) (watch.reading 1) value).2.2
      (c.submit timings (watch.reading 0) (watch.reading 1) value).2.1 := by
  unfold submit
  split
  · rename_i round guarded present
    rw [Bool.and_eq_true, decide_eq_true_eq] at guarded
    have active : round.isActive (watch.reading 0) = true := by
      have found := guarded.2
      rwa [isActive, present, Option.any_some] at found
    split
    · exact .rest c
    · rename_i puzzle shown
      exact .step (.grading value guarded.1 present shown active) (.single (.scheduling guarded.1))
  · exact finish_moves c

/-- A completed fetch of the current round is one move. -/
theorem fetched_move (c : Coordinator) (outcome : Option Puzzle) :
    Move timings watch true c (c.fetched timings (watch.reading 0) c.generation outcome).2
      (c.fetched timings (watch.reading 0) c.generation outcome).1 := by
  unfold fetched
  rw [if_neg (not_not_intro rfl)]
  split
  · rename_i playing
    cases outcome with
    | some puzzle =>
      cases present : c.round with
      | none =>
        have active := playing.2
        rw [isActive, present] at active
        cases active
      | some round =>
        have active := playing.2
        rw [isActive, present, Option.any_some] at active
        exact .displaying puzzle playing.1 present active
    | none => exact .postponing playing.1 playing.2
  · rename_i late
    exact .discarding late

/-! ### The path of a command -/

/-- A command that brings no load of the current round is a path of moves. -/
theorem handle_moves (timings : Timings) (watch : Watch) (c : Coordinator) (command : Command)
    (other : command.isLoadOf c.generation = false) :
    Moves timings watch c (c.handle timings watch command).2.2
      (c.handle timings watch command).2.1 := by
  cases command with
  | start player => exact start_moves c player
  | submit value => exact submit_moves c value
  | next => exact requestNext_moves c 0
  | finish => exact finish_moves c
  | look => exact .rest c
  | fetched generation outcome =>
    have stale : generation ≠ c.generation := by simpa [Command.isLoadOf] using other
    simp only [handle, fetched, if_pos stale]
    exact .rest c
  | retryDue generation =>
    have stale : generation ≠ c.generation := by simpa [Command.isLoadOf] using other
    simp only [handle, if_neg stale]
    exact .rest c
  | followUpDue generation sequence =>
    simp only [handle]
    split
    · exact .step .following (requestNext_moves _ 0)
    · exact .rest c
  | tick generation remaining =>
    simp only [handle]
    split
    · rename_i current
      exact .single (.ticking remaining current.2)
    · exact .rest c
  | expired generation =>
    simp only [handle]
    split
    · exact finish_moves c
    · exact .rest c

/-- The command that brings a completed fetch of the current round is one move. -/
theorem handle_fetched (timings : Timings) (watch : Watch) (c : Coordinator)
    (outcome : Option Puzzle) :
    Move timings watch true c
      (c.handle timings watch (.fetched c.generation outcome)).2.2
      (c.handle timings watch (.fetched c.generation outcome)).2.1 :=
  fetched_move c outcome

/-- Once the wait for a retry is over, the load is taken in first. What follows is a path. -/
theorem handle_retryDue (c : Coordinator) :
    Moves timings watch { c with retry := none, loading := false }
      (c.handle timings watch (.retryDue c.generation)).2.2
      (c.handle timings watch (.retryDue c.generation)).2.1 := by
  simp only [handle, if_true]
  exact requestNext_moves _ 0

/-- A command that brings a load of the current round is one of these two. -/
theorem Command.isLoadOf_iff {command : Command} {generation : Nat} :
    command.isLoadOf generation = true ↔
      (∃ outcome, command = .fetched generation outcome) ∨ command = .retryDue generation := by
  cases command <;> simp [isLoadOf]

/-! ### What is preserved -/

/-- What every move of a path keeps of the state and of the effects so far, the path keeps. -/
theorem Moves.keeps {holds : Coordinator → List Effect → Prop} {c next : Coordinator}
    {effects : List Effect} (moves : Moves timings watch c effects next)
    (kept : ∀ {c next done effects}, Move timings watch false c effects next → holds c done →
      holds next (done ++ effects)) :
    ∀ {done}, holds c done → holds next (done ++ effects) := by
  induction moves with
  | rest c =>
    intro done before
    rwa [List.append_nil]
  | step move _ ih =>
    intro done before
    rw [← List.append_assoc]
    exact ih (kept move before)

/-- **What every move keeps of the state and of the effects so far, every handled command
keeps.** -/
theorem handle_holds (holds : Coordinator → List Effect → Prop)
    (kept : ∀ {arrival c next done effects}, Move timings watch arrival c effects next →
      holds c done → holds next (done ++ effects))
    {c : Coordinator} (command : Command) (before : holds c []) :
    holds (c.handle timings watch command).2.1 (c.handle timings watch command).2.2 := by
  cases arrival : command.isLoadOf c.generation with
  | false => exact (handle_moves timings watch c command arrival).keeps kept before
  | true =>
    rcases Command.isLoadOf_iff.mp arrival with ⟨outcome, rfl⟩ | rfl
    · exact kept (handle_fetched timings watch c outcome) before
    · have resumed : holds { c with retry := none, loading := false } ([] ++ []) :=
        kept .resuming before
      exact (handle_retryDue c).keeps kept resumed

/-- What every move keeps of the state and of the log, every handled command keeps. -/
theorem handle_preserves (holds : Coordinator → List Event → Prop)
    (kept : ∀ {arrival c next effects log}, Move timings watch arrival c effects next →
      holds c log → holds next (log ++ published effects))
    {c : Coordinator} (command : Command) (log : List Event) (before : holds c log) :
    holds (c.handle timings watch command).2.1
      (log ++ published (c.handle timings watch command).2.2) := by
  refine handle_holds (fun next done => holds next (log ++ published done)) ?_ command ?_
  · intro arrival c next done effects move before
    rw [published_append, ← List.append_assoc]
    exact kept move before
  · rwa [published_nil, List.append_nil]

/-- What every move keeps of the state alone, every handled command keeps. -/
theorem handle_keeps (holds : Coordinator → Prop)
    (kept : ∀ {arrival c next effects}, Move timings watch arrival c effects next →
      holds c → holds next)
    {c : Coordinator} (command : Command) (before : holds c) :
    holds (c.handle timings watch command).2.1 :=
  handle_preserves (fun c _ => holds c) kept command [] before

/-- What holds at the beginning and is kept by every move holds of every run. -/
theorem Run.preserves {holds : Coordinator → List Event → Prop}
    (inputs : List (Watch × Command)) (initial : holds {} [])
    (kept : ∀ input ∈ inputs, ∀ {arrival c next effects log},
      Move timings input.1 arrival c effects next →
        holds c log → holds next (log ++ published effects)) :
    holds (Run.of timings inputs).coordinator (Run.of timings inputs).log := by
  induction inputs using List.reverseRecOn with
  | nil => exact initial
  | append_singleton inputs input ih =>
    have before := ih fun earlier member => kept earlier (List.mem_append_left _ member)
    rw [Run.of_concat, Run.log_next]
    exact handle_preserves holds (kept input (List.mem_append_right _ List.mem_cons_self)) input.2 _
      before

end TimedQuiz.Coordinator
