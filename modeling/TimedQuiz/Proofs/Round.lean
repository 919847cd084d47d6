/-
**Rounds, their clock and their grading.**

What has expired stays expired, and a live round is active exactly until then. Grading counts in an
active round that shows a puzzle, and never changes what is shown.
-/

import TimedQuiz.Round

namespace TimedQuiz

/-! ### Time -/

namespace Clock

/-- What has expired stays expired. -/
theorem isExpired_mono {clock : Clock} {earlier later : Span} (order : earlier ≤ later)
    (expired : clock.isExpired earlier = true) : clock.isExpired later = true := by
  unfold isExpired remaining elapsed at *
  rw [beq_iff_eq] at *
  have spent : earlier - clock.startedAt ≤ later - clock.startedAt := Nat.sub_le_sub_right order _
  have used : clock.duration ≤ earlier - clock.startedAt := Nat.le_of_sub_eq_zero expired
  exact Nat.sub_eq_zero_of_le (Nat.le_trans used spent)

end Clock

namespace Round

/-- A live round is inactive only because it has expired. -/
theorem isExpired_of_inactive {round : Round} {now : Span} (live : round.live = true)
    (inactive : round.isActive now = false) : round.clock.isExpired now = true := by
  rwa [isActive, live, Bool.true_and, Bool.not_eq_false'] at inactive

theorem not_isExpired_of_isActive {round : Round} {now : Span}
    (active : round.isActive now = true) : round.clock.isExpired now = false := by
  rw [isActive, Bool.and_eq_true, Bool.not_eq_true'] at active
  exact active.2

/-- A round is active while it is live and has not used up its budget. -/
theorem isActive_iff {round : Round} {now : Span} :
    round.isActive now = true ↔ round.live = true ∧ round.elapsed now < round.clock.duration := by
  unfold isActive Clock.isExpired Clock.remaining
  rw [Bool.and_eq_true, Bool.not_eq_true', beq_eq_false_iff_ne, ← Nat.sub_pos_iff_lt]
  exact and_congr_right fun _ => Nat.pos_iff_ne_zero.symm

/-! ### Grading -/

/-- Grading leaves the puzzle on display. -/
theorem grade_puzzle (round : Round) (now : Span) (value : Int) :
    (round.grade now value).2.puzzle = round.puzzle := by
  unfold grade
  split <;> rfl

/-- Grading does not close the round. -/
theorem grade_live (round : Round) (now : Span) (value : Int) :
    (round.grade now value).2.live = round.live := by
  unfold grade
  split <;> rfl

/-- Grading against a puzzle on display, in an active round, counts. -/
theorem grade_of_active {round : Round} {puzzle : Puzzle} {now : Span} (value : Int)
    (active : round.isActive now = true) (shown : round.puzzle = some puzzle) :
    round.grade now value =
      (decide (puzzle.solution = value), round.record (decide (puzzle.solution = value))) := by
  rw [grade, active, shown]

/-- Nothing is counted in a round that is not active, and every verdict there is `false`. -/
theorem grade_of_inactive {round : Round} {now : Span} (value : Int)
    (inactive : round.isActive now = false) : round.grade now value = (false, round) := by
  rw [grade, inactive]

end Round
end TimedQuiz
