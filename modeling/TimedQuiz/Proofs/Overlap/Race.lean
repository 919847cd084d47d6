/-
**What a start finds while others go on.**

* `carries_iff_of_run`: all starts carry the totals of their players exactly when none of them has
  missed an answer.
* `update_lost`: a run in which a start has missed one.

A start finds everything that had been announced when its client arrived, for the client waits until
that is written. What is announced later may be written too late to be found, and then the writes of
the new round put the old counters in its place.
-/

import TimedQuiz.Proofs.Overlap.Consistent

namespace TimedQuiz

namespace Log

instance (before : List Event) (event : Event) : Decidable (Carries before event) :=
  match event with
  | .roundStarted player => inferInstanceAs (Decidable (player = totals player.username before))
  | .puzzleLoaded _ => isTrue trivial
  | .answerGraded _ _ _ => isTrue trivial
  | .scoreChanged _ => isTrue trivial
  | .roundEnded _ _ => isTrue trivial
  | .tick _ => isTrue trivial

end Log

namespace Crowd

/-- **An accepted start carries the totals of its player exactly when it has missed no answer**, if
the starts before it have carried theirs. -/
theorem carries_iff {opening : Opening} (found : Found opening.before opening.reading)
    (balanced : Log.Balanced opening.before) :
    Log.Carries opening.before (.roundStarted opening.reading.player) ↔ opening.missed = [] := by
  rw [Opening.missed, ← Log.latest_eq_totals_iff balanced, ← found.latest]
  exact Iff.rfl

/-- If no start has missed an answer, each carries the totals. -/
theorem Consistent.balanced {crowd : Crowd} (consistent : Consistent crowd)
    (none : ∀ opening ∈ crowd.openings, opening.missed = []) {log : List Event}
    (past : log <+: crowd.events) : Log.Balanced log := by
  induction log using List.reverseRecOn with
  | nil => exact ⟨EachAfter.nil, EachAfter.nil⟩
  | append_singleton log event ih =>
    have balanced := ih ((List.prefix_append _ _).trans past)
    obtain ⟨after, split⟩ := past
    have fits : Log.Fits (log ++ [event]) := by
      have whole := consistent.agrees.fits
      rw [← split] at whole
      exact EachAfter.init whole
    refine ⟨fits, balanced.carries.concat ?_⟩
    cases event with
    | roundStarted player =>
      rw [List.append_assoc] at split
      obtain ⟨opening, member, rfl, rfl⟩ := consistent.opened log _ after split.symm
      exact (carries_iff (consistent.found opening member).1 balanced).mpr (none opening member)
    | _ => trivial

/-- **Clients may interleave in any way: every start finds what had been announced when its client
arrived, and all starts carry the totals of their players exactly when none has missed an answer**
that was written too late to be found. -/
theorem carries_iff_of_run (timings : Timings) (epoch : Timestamp) (steps : List Step) :
    let crowd := after timings epoch steps
    (∀ opening ∈ crowd.openings, Found opening.before opening.reading ∧
        ∃ after, crowd.events = opening.before ++ .roundStarted opening.reading.player :: after) ∧
      EachAfter (Opens crowd.openings) crowd.events ∧
      (EachAfter Log.Carries crowd.events ↔ ∀ opening ∈ crowd.openings, opening.missed = []) := by
  intro crowd
  have consistent : Consistent crowd := consistent_of_run timings epoch steps
  refine ⟨consistent.found, consistent.opened, fun carries opening member => ?_, fun none => ?_⟩
  · obtain ⟨found, after, split⟩ := consistent.found opening member
    have balanced : Log.Balanced crowd.events := ⟨consistent.agrees.fits, carries⟩
    have before : Log.Balanced opening.before := by
      rw [split] at balanced
      exact balanced.init
    exact (carries_iff found before).mp (carries _ _ after split)
  · exact (consistent.balanced none List.prefix_rfl).carries

/-- Alice starts a round. Elsewhere she wants to start again: she waits and logs in. Meanwhile her
answer is graded and her round ended, and only then is the second start handled. -/
def overlap : List Step :=
  let alice : Credentials := { username := "alice", password := "wonderland" }
  let wall : Timestamp := { nanos := 0 }
  [.register wall alice, .arrive alice, .take, .login 0 wall, .send 0, .deliver,
    .fire 1 (some { image := [1, 2], solution := 6 }), .deliver,
    .arrive alice, .take, .login 1 wall,
    .ask (.submit 6), .deliver, .ask .finish, .deliver,
    .send 1, .deliver]

/-- **The second start does not carry the totals**: it has missed the answer. -/
theorem update_lost :
    ¬EachAfter Log.Carries (after .standard { nanos := 0 } overlap).events := by
  decide +kernel

end Crowd
end TimedQuiz
