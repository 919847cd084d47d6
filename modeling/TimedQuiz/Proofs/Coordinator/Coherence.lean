/-
**The parts of the coordinator's state fit together.**

* `Coherent`: the phase says whether there is a round, whether it is live, and whether its end has
  been dealt with. In particular a running round can always be ended.
* `Awaits`: a running round without a puzzle is loading one, or has expired. This needs the clock: a
  fetch that completes after the round has expired leaves the round running and without a puzzle.
-/

import TimedQuiz.Proofs.Coordinator.Move
import TimedQuiz.Proofs.Round

namespace TimedQuiz.Coordinator

/-! ### The phase and the round -/

/-- The phase says how the round stands. -/
structure Coherent (c : Coordinator) : Prop where
  settled : c.phase ≠ .ending
  idle : c.phase = .idle → c.round = none ∧ c.loading = false
  running : c.phase = .running →
    c.hasEnded = false ∧ ∃ round, c.round = some round ∧ round.live = true
  ended : c.phase = .ended →
    c.hasEnded = true ∧ ∃ round, c.round = some round ∧ round.live = false

theorem coherent_initial : Coherent {} where
  settled impossible := by cases impossible
  idle _ := ⟨rfl, rfl⟩
  running impossible := by cases impossible
  ended impossible := by cases impossible

namespace Coherent

variable {c next : Coordinator}

/-- What is not looked at may change. -/
theorem congr (coherent : Coherent c) (phase : next.phase = c.phase) (round : next.round = c.round)
    (hasEnded : next.hasEnded = c.hasEnded)
    (loading : c.phase = .idle → c.loading = false → next.loading = false) : Coherent next where
  settled := by rw [phase]; exact coherent.settled
  idle := by
    rw [phase, round]
    intro idle
    have ⟨missing, free⟩ := coherent.idle idle
    exact ⟨missing, loading idle free⟩
  running := by rw [phase, round, hasEnded]; exact coherent.running
  ended := by rw [phase, round, hasEnded]; exact coherent.ended

/-- A running round may be replaced by another live one. -/
theorem of_running {round : Round} (running : next.phase = .running)
    (fresh : next.hasEnded = false) (present : next.round = some round) (live : round.live = true) :
    Coherent next where
  settled impossible := by rw [running] at impossible; cases impossible
  idle impossible := by rw [running] at impossible; cases impossible
  running _ := ⟨fresh, round, present, live⟩
  ended impossible := by rw [running] at impossible; cases impossible

theorem live (coherent : Coherent c) (running : c.phase = .running) {round : Round}
    (present : c.round = some round) : round.live = true := by
  obtain ⟨_, found, same, live⟩ := coherent.running running
  rw [present] at same
  cases same
  exact live

/-- Whenever no round is running, one may be started. -/
theorem between_rounds (coherent : Coherent c) (resting : c.phase ≠ .running) :
    c.phase = .idle ∨ c.phase = .ended := by
  have settled := coherent.settled
  cases phase : c.phase <;> simp_all

end Coherent

variable {timings : Timings} {watch : Watch} {c next : Coordinator}

/-- **Every move keeps the state coherent.** -/
theorem Move.coherent {arrival : Bool} {effects : List Effect}
    (move : Move timings watch arrival c effects next) (coherent : Coherent c) :
    Coherent next := by
  cases move with
  | opening player resting => exact .of_running rfl rfl rfl rfl
  | @closing _ round running present fresh =>
    exact
      { settled := fun impossible => by cases impossible
        idle := fun impossible => by cases impossible
        running := fun impossible => by cases impossible
        ended := fun _ => ⟨rfl, round.close, rfl, rfl⟩ }
  | fetching number running free active =>
    exact coherent.congr rfl rfl rfl fun idle => by rw [running] at idle; cases idle
  | @grading _ round puzzle value running present shown active =>
    refine .of_running running (coherent.running running).1 rfl ?_
    rw [Round.grade_live]
    exact coherent.live running present
  | scheduling running => exact coherent.congr rfl rfl rfl fun _ free => free
  | following => exact coherent.congr rfl rfl rfl fun _ free => free
  | ticking remaining running => exact coherent
  | @displaying _ round puzzle running present active =>
    have live := coherent.live running present
    have shown : (round.display puzzle).live = true := live
    exact .of_running running (coherent.running running).1 rfl shown
  | postponing running active => exact coherent.congr rfl rfl rfl fun _ free => free
  | discarding late => exact coherent.congr rfl rfl rfl fun _ _ => rfl
  | resuming => exact coherent.congr rfl rfl rfl fun _ _ => rfl

theorem handle_coherent (command : Command) (coherent : Coherent c) :
    Coherent (c.handle timings watch command).2.1 :=
  handle_keeps Coherent (fun move before => move.coherent before) command coherent

/-- Before the first round nothing is loading, so the view shows the flag as it is. -/
theorem snapshot_loading (coherent : Coherent c) (now : Span) :
    (c.snapshot now).loading = c.loading := by
  rw [snapshot, view_loading]
  cases present : c.round with
  | some round => rfl
  | none =>
    cases phase : c.phase with
    | idle => rw [(coherent.idle phase).2]; rfl
    | running =>
      obtain ⟨_, round, found, _⟩ := coherent.running phase
      rw [present] at found
      cases found
    | ending => exact absurd phase coherent.settled
    | ended =>
      obtain ⟨_, round, found, _⟩ := coherent.ended phase
      rw [present] at found
      cases found

/-! ### A round without a puzzle -/

/-- A running round without a puzzle is loading one or has expired. -/
def Awaits (c : Coordinator) (now : Span) : Prop :=
  ∀ round, c.phase = .running → c.round = some round → round.puzzle = none →
    c.loading = true ∨ round.clock.isExpired now = true

theorem Awaits.later {earlier now : Span} (awaits : Awaits c earlier) (order : earlier ≤ now) :
    Awaits c now := by
  intro round running present missing
  rcases awaits round running present missing with loading | expired
  · exact Or.inl loading
  · exact Or.inr (Clock.isExpired_mono order expired)

theorem Awaits.of_loading {now : Span} (loading : c.phase = .running → c.loading = true) :
    Awaits c now :=
  fun _ running _ _ => Or.inl (loading running)

/-- Without a running round there is nothing to end. -/
theorem finish_of_resting (resting : c.phase ≠ .running) : c.finish = (false, c, []) := by
  unfold finish
  split
  · contradiction
  · rfl

/-- Ending leaves no round running. -/
theorem finish_not_running (coherent : Coherent c) : c.finish.2.1.phase ≠ .running := by
  unfold finish
  split
  · rename_i running _
    simp only [cancelTimers, running, Phase.advance, Phase.apply]
    decide
  · rename_i unmatched
    intro running
    obtain ⟨fresh, round, present, _⟩ := coherent.running running
    exact unmatched round fresh running present

/-- A round that is still running after a puzzle has been asked for is loading one. -/
theorem requestNext_loading (now : Span) (coherent : Coherent c)
    (running : (c.requestNext now).2.1.phase = .running) :
    (c.requestNext now).2.1.loading = true := by
  revert running
  unfold requestNext
  split
  · rename_i resting
    exact fun running => (resting running).elim
  · split
    · rename_i loading
      exact fun _ => loading
    · split
      · exact fun _ => rfl
      · exact fun running => (finish_not_running coherent running).elim

theorem requestNext_awaits (asked now : Span) (coherent : Coherent c) :
    Awaits (c.requestNext asked).2.1 now :=
  .of_loading (requestNext_loading asked coherent)

theorem finish_awaits (now : Span) (coherent : Coherent c) : Awaits c.finish.2.1 now :=
  .of_loading fun running => (finish_not_running coherent running).elim

theorem start_awaits (player : Player) (awaits : Awaits c watch.stop) :
    Awaits (c.start timings watch player).2.1 watch.stop := by
  unfold start
  split
  · exact awaits
  · rename_i phase applied
    obtain ⟨_, rfl⟩ := Phase.of_apply_start applied
    exact requestNext_awaits _ _ (.of_running rfl rfl rfl rfl)

theorem submit_awaits (value : Int) (coherent : Coherent c) (awaits : Awaits c watch.stop) :
    Awaits (c.submit timings (watch.reading 0) (watch.reading 1) value).2.1 watch.stop := by
  unfold submit
  split
  · rename_i round guarded present
    split
    · exact awaits
    · rename_i puzzle shown
      intro graded running same missing
      have recorded : graded = (round.grade (watch.reading 1) value).2 :=
        (Option.some.inj same).symm
      rw [recorded, Round.grade_puzzle, shown] at missing
      cases missing
  · exact finish_awaits _ coherent

theorem fetched_awaits (generation : Nat) (outcome : Option Puzzle) (coherent : Coherent c)
    (awaits : Awaits c watch.start) :
    Awaits (c.fetched timings (watch.reading 0) generation outcome).1 watch.stop := by
  unfold fetched
  split
  · exact awaits.later watch.start_le_stop
  · split
    · rename_i playing
      cases outcome with
      | some puzzle =>
        intro round running same missing
        obtain ⟨_, found, present, _⟩ := coherent.running playing.1
        rw [present] at same
        have displayed : round = found.display puzzle := (Option.some.inj same).symm
        rw [displayed] at missing
        cases missing
      | none =>
        intro round running present missing
        rcases awaits round running present missing with loading | expired
        · exact Or.inl loading
        · -- An active round has not expired, not even at the earlier instant.
          have active := playing.2
          rw [isActive, present, Option.any_some] at active
          have late := Clock.isExpired_mono (watch.start_le_reading 0) expired
          rw [Round.not_isExpired_of_isActive active] at late
          cases late
    -- The fetch came too late for a round that nobody has ended yet.
    · rename_i late
      intro round running present missing
      have inactive : round.isActive (watch.reading 0) = false := by
        cases active : round.isActive (watch.reading 0) with
        | false => rfl
        | true =>
          refine (late ⟨running, ?_⟩).elim
          rw [isActive, present, Option.any_some]
          exact active
      have expired := Round.isExpired_of_inactive (coherent.live running present) inactive
      exact Or.inr (Clock.isExpired_mono (watch.reading_le_stop 0) expired)

/-- **Whatever is handled, a running round without a puzzle is loading one or has expired.** -/
theorem handle_awaits (command : Command) (coherent : Coherent c) (awaits : Awaits c watch.start) :
    Awaits (c.handle timings watch command).2.1 watch.stop := by
  have kept : Awaits c watch.stop := awaits.later watch.start_le_stop
  cases command with
  | start player => exact start_awaits player kept
  | submit value => exact submit_awaits value coherent kept
  | next => exact requestNext_awaits _ _ coherent
  | finish => exact finish_awaits _ coherent
  | look => exact kept
  | fetched generation outcome => exact fetched_awaits generation outcome coherent awaits
  | retryDue generation =>
    simp only [handle]
    split
    · exact requestNext_awaits _ _ (coherent.congr rfl rfl rfl fun _ _ => rfl)
    · exact kept
  | followUpDue generation sequence =>
    simp only [handle]
    split
    · exact requestNext_awaits _ _ (coherent.congr rfl rfl rfl fun _ free => free)
    · exact kept
  | tick generation remaining =>
    simp only [handle]
    split <;> exact kept
  | expired generation =>
    simp only [handle]
    split
    · exact finish_awaits _ coherent
    · exact kept

end TimedQuiz.Coordinator
