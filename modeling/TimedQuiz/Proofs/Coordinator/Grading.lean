/-
**Grading and counting.**

The clock is looked at twice while an answer is handled: first to see whether there is a round to
answer in, and then once more by the round itself, when it grades. In between time may go by.

* `Admits`: at an instant there is a running, active round with a puzzle to answer.
* `submit_of_admitted`, `submit_of_unadmitted`: an answer is graded, and told, if it is admitted at
  the first look. Otherwise nothing is counted and no answer is told.
* `submit_counts`: what is graded is counted if it is admitted at the second look too.
* `runs_out_iff`: the two looks differ when the budget of the round is used up in between.
* `grading_agrees_iff`: so grading and counting agree unless the round runs out between the two
  looks. Then an answer that is not counted is told, and told as wrong; `answer_lost` is a run in
  which this happens.
-/

import TimedQuiz.Proofs.Coordinator.Expiry
import TimedQuiz.Proofs.Coordinator.Trail

namespace TimedQuiz.Coordinator

/-! ### Answers that are admitted -/

/-- A round is running and active, and it shows a puzzle. -/
def Admits (c : Coordinator) (now : Span) : Prop :=
  c.phase = .running ∧ ∃ round, c.round = some round ∧ round.isActive now = true ∧
    ∃ puzzle, round.puzzle = some puzzle

/-- One more answer is counted, for the round and for its player. -/
def Counts (c next : Coordinator) : Prop :=
  ∃ round graded, c.round = some round ∧ next.round = some graded ∧
    graded.attempts = round.attempts + 1 ∧
    graded.player.totalAttempts = round.player.totalAttempts + 1

variable {timings : Timings} {before during : Span} {c : Coordinator}

/-- An answer that is admitted is graded and told with what the round makes of it. -/
theorem submit_of_admitted {round : Round} {puzzle : Puzzle} (timings : Timings) (during : Span)
    (value : Int) (running : c.phase = .running) (present : c.round = some round)
    (active : round.isActive before = true) (shown : round.puzzle = some puzzle) :
    let verdict := round.grade during value
    let result := c.submit timings before during value
    result.1 = .graded verdict.1 ∧ result.2.1.round = some verdict.2 ∧
      published result.2.2 =
        [.answerGraded value verdict.1 verdict.2.player, .scoreChanged verdict.2.player] := by
  have guarded : (decide (c.phase = .running) && c.isActive before) = true := by
    rw [running, isActive, present, Option.any_some, active]
    rfl
  unfold submit
  simp only [guarded, present, shown, published_append, published_scheduleFollowUp]
  exact ⟨trivial, rfl, rfl⟩

/-- Ending a round leaves the tally as it is. -/
theorem tally_finish (c : Coordinator) : c.finish.2.1.tally = c.tally := by
  unfold finish
  split
  · rename_i present
    rw [tally, tally, present]
    rfl
  · rfl

/-- An answer that is not admitted is not graded, counts nothing, and no answer is told. -/
theorem submit_of_unadmitted (timings : Timings) (during : Span) (value : Int)
    (unadmitted : ¬ c.Admits before) :
    let result := c.submit timings before during value
    (∀ correct, result.1 ≠ .graded correct) ∧ result.2.1.tally = c.tally ∧
      ∀ event ∈ published result.2.2, event.kind = .roundEnded := by
  unfold submit
  split
  · rename_i round guarded present
    split
    · exact ⟨fun _ graded => (by cases graded), rfl, fun _ told => (by cases told)⟩
    · rename_i puzzle shown
      rw [Bool.and_eq_true, decide_eq_true_eq, isActive, present, Option.any_some] at guarded
      exact absurd ⟨guarded.1, round, present, guarded.2, puzzle, shown⟩ unadmitted
  · exact ⟨fun _ graded => (by cases graded), tally_finish c, fun _ told => finish_kind told⟩

/-- A tally that stays as it is counts nothing. -/
theorem not_counts_of_tally {next : Coordinator} (same : next.tally = c.tally) :
    ¬ c.Counts next := by
  rintro ⟨round, graded, present, following, more, -⟩
  rw [tally, tally, present, following, Option.map_some, Option.map_some, Option.some.injEq,
    Prod.mk.injEq, Prod.mk.injEq] at same
  have attempts : graded.attempts = round.attempts := same.2.1
  omega

/-- **An answer that is admitted at the first look is counted exactly when it is admitted at the
second look too.** Otherwise the verdict is `false` and the tally stays as it is. -/
theorem submit_counts (value : Int) (admitted : c.Admits before) :
    let result := c.submit timings before during value
    (c.Admits during ∧ c.Counts result.2.1) ∨
      (¬ c.Admits during ∧ result.1 = .graded false ∧ result.2.1.tally = c.tally) := by
  obtain ⟨running, round, present, active, puzzle, shown⟩ := admitted
  obtain ⟨verdict, graded, -⟩ := submit_of_admitted timings during value running present active
    shown
  intro result
  by_cases still : round.isActive during = true
  · left
    rw [Round.grade_of_active value still shown] at graded
    exact ⟨⟨running, round, present, still, puzzle, shown⟩, round, _, present, graded, rfl, rfl⟩
  · right
    rw [Round.grade_of_inactive value (eq_false_of_ne_true still)] at verdict graded
    refine ⟨fun ⟨_, other, same, active, _⟩ => ?_, verdict, ?_⟩
    · rw [present, Option.some.injEq] at same
      exact still (same ▸ active)
    · rw [tally, tally, graded, present]

/-- The round runs out between two looks when its budget does. -/
theorem runs_out_iff :
    c.Admits before ∧ ¬ c.Admits during ↔
      c.phase = .running ∧ ∃ round, c.round = some round ∧ round.live = true ∧
        (∃ puzzle, round.puzzle = some puzzle) ∧
        round.elapsed before < round.clock.duration ∧
        round.clock.duration ≤ round.elapsed during := by
  constructor
  · rintro ⟨⟨running, round, present, active, shown⟩, late⟩
    obtain ⟨live, left⟩ := Round.isActive_iff.mp active
    refine ⟨running, round, present, live, shown, left, Nat.le_of_not_lt fun still => late ?_⟩
    exact ⟨running, round, present, Round.isActive_iff.mpr ⟨live, still⟩, shown⟩
  · rintro ⟨running, round, present, live, shown, left, spent⟩
    refine ⟨⟨running, round, present, Round.isActive_iff.mpr ⟨live, left⟩, shown⟩, ?_⟩
    rintro ⟨-, other, same, active, -⟩
    rw [present, Option.some.injEq] at same
    subst same
    exact Nat.not_lt.mpr spent (Round.isActive_iff.mp active).2

/-! ### The main result -/

/-- **Grading agrees with counting unless the round runs out between the two looks at the clock.**
Whatever the state, the value and the readings of the clock, an answer is graded exactly when it is
told, and exactly when it is admitted at the first look. It is then counted once, for the round and
for its player, exactly if it is admitted at the second look as well. If not, it is told as wrong
and counted nowhere. An answer that is not graded leaves the tally as it is. -/
theorem grading_agrees_iff (timings : Timings) (watch : Watch) (c : Coordinator) (value : Int) :
    let result := c.handle timings watch (.submit value)
    let next := result.2.1
    let told := published result.2.2
    let graded := ∃ correct, result.1 = .submitted (.graded correct)
    let announced := ∃ correct player, .answerGraded value correct player ∈ told
    let runsOut := c.Admits (watch.reading 0) ∧ ¬ c.Admits (watch.reading 1)
    (graded ↔ c.Admits (watch.reading 0)) ∧ (announced ↔ graded) ∧
      ((announced ∧ graded ↔ c.Counts next) ↔ ¬ runsOut) ∧
      (¬ graded → next.tally = c.tally ∧ ∀ event ∈ told, event.kind = .roundEnded) ∧
      (runsOut → result.1 = .submitted (.graded false) ∧ next.tally = c.tally) := by
  intro result next told graded announced runsOut
  let submitted := c.submit timings (watch.reading 0) (watch.reading 1) value
  by_cases admitted : c.Admits (watch.reading 0)
  · have outcome : (c.Admits (watch.reading 1) ∧ c.Counts next) ∨ (¬ c.Admits (watch.reading 1) ∧
        submitted.1 = .graded false ∧ next.tally = c.tally) := submit_counts value admitted
    obtain ⟨running, round, present, active, puzzle, shown⟩ := id admitted
    obtain ⟨verdict, -, events⟩ := submit_of_admitted timings (watch.reading 1) value running
      present active shown
    have isGraded : graded := ⟨_, congrArg Reply.submitted verdict⟩
    have isTold : announced := ⟨_, _, events ▸ List.mem_cons_self⟩
    refine ⟨iff_of_true isGraded admitted, iff_of_true isTold isGraded, ?_,
      fun impossible => absurd isGraded impossible, fun ⟨_, late⟩ => ?_⟩
    · have both : announced ∧ graded := ⟨isTold, isGraded⟩
      rw [iff_true_left both]
      rcases outcome with ⟨again, counted⟩ | ⟨late, -, same⟩
      · exact iff_of_true counted fun ⟨_, late⟩ => late again
      · exact iff_of_false (not_counts_of_tally same) fun timely => timely ⟨admitted, late⟩
    · rcases outcome with ⟨again, -⟩ | ⟨-, wrong, same⟩
      · exact absurd again late
      · exact ⟨congrArg Reply.submitted wrong, same⟩
  · obtain ⟨ungraded, same, untold⟩ := submit_of_unadmitted timings (watch.reading 1) value admitted
    have notGraded : ¬ graded := fun ⟨correct, impossible⟩ =>
      ungraded correct (Reply.submitted.inj impossible)
    have notTold : ¬ announced := fun ⟨_, _, member⟩ => by cases untold _ member
    refine ⟨iff_of_false notGraded admitted, iff_of_false notTold notGraded, ?_,
      fun _ => ⟨same, untold⟩, fun runs => absurd runs.1 admitted⟩
    exact iff_of_true (iff_of_false (fun both => notTold both.1) (not_counts_of_tally same))
      fun runs => admitted runs.1

/-- A puzzle is on display and the round has one nanosecond left. -/
def lastNanosecond : List World.Step :=
  [.ask (.start (.fresh "ann")), .deliver [], .fire 1 (some { image := [], solution := 5 }),
    .deliver [], .wait (Span.ofMillis 30000 - 1)]

/-- The right answer arrives in the last nanosecond of a round, and one nanosecond goes by between
the two looks at the clock: the answer is graded and told as wrong, and no attempt is counted. -/
theorem answer_lost :
    let world := World.run .standard {} lastNanosecond
    let c := world.coordinator
    let result := c.handle .standard { start := world.now, pauses := [1] } (.submit 5)
    let told := published result.2.2
    let graded := ∃ correct, result.1 = .submitted (.graded correct)
    c.phase = .running ∧
      told = [.answerGraded 5 false (.fresh "ann"), .scoreChanged (.fresh "ann")] ∧
      result.2.1.tally = c.tally ∧
      ¬ (.answerGraded 5 false (.fresh "ann") ∈ told ∧ graded ↔ c.Counts result.2.1) := by
  intro world c result told graded
  have events : told = [.answerGraded 5 false (.fresh "ann"), .scoreChanged (.fresh "ann")] := by
    decide
  have same : result.2.1.tally = c.tally := by decide
  refine ⟨by decide, events, same, fun agree => ?_⟩
  refine not_counts_of_tally same (agree.mp ⟨?_, false, rfl⟩)
  rw [events]
  exact List.mem_cons_self

end TimedQuiz.Coordinator
