/-
**What a log with times tells.**

Here each event comes with the time at which it was announced. A start opens a round and an end
closes it, so at each place of the log at most one round is on.

* `opened?`: when the round that is on was opened.
* `looks`: how often its countdown has told the time left.
* `started`: how many rounds have been opened so far.
* `answered`: how many answers have been graded so far; `Graded`: when one of them was, and in which
  round.
-/

import TimedQuiz.Proofs.Log

namespace TimedQuiz

namespace Event

/-- The event tells of something that counts: a puzzle on display, an answer, a score. -/
def counts : Event → Bool
  | puzzleLoaded _ => true
  | answerGraded _ _ _ => true
  | scoreChanged _ => true
  | _ => false

end Event

namespace Timeline

/-- Which round is on after an entry: when it was opened. -/
def turn (current : Option Span) (entry : Span × Event) : Option Span :=
  match entry.2 with
  | .roundStarted _ => some entry.1
  | .roundEnded _ _ => none
  | _ => current

/-- When the round that is on was opened; nothing when no round is on. -/
def opened? (line : List (Span × Event)) : Option Span := line.foldl turn none

/-- The count of looks after an entry. -/
def count (looks : Nat) (entry : Span × Event) : Nat :=
  match entry.2 with
  | .roundStarted _ => 0
  | .tick _ => looks + 1
  | _ => looks

/-- How often the time left has been told since the latest start. -/
def looks (line : List (Span × Event)) : Nat := line.foldl count 0

/-- How many rounds have been opened. -/
def started (line : List (Span × Event)) : Nat :=
  line.countP fun entry => entry.2.starter?.isSome

/-- How many answers have been graded. -/
def answered (line : List (Span × Event)) : Nat := line.countP fun entry => entry.2.isAnswer

/-- The answer with a number was graded at a time, in the round with a number. Both are counted from
one on. -/
def Graded (line : List (Span × Event)) (number round : Nat) (time : Span) : Prop :=
  ∃ before event after, line = before ++ (time, event) :: after ∧ event.isAnswer = true ∧
    number = answered before + 1 ∧ round = started before

/-! ### A log that grows -/

theorem opened?_concat (line : List (Span × Event)) (entry : Span × Event) :
    opened? (line ++ [entry]) = turn (opened? line) entry := by
  rw [opened?, List.foldl_append, opened?]
  rfl

theorem looks_concat (line : List (Span × Event)) (entry : Span × Event) :
    looks (line ++ [entry]) = count (looks line) entry := by
  rw [looks, List.foldl_append, looks]
  rfl

/-- What counts opens and closes no round, and is no look of the countdown. -/
theorem concat_of_counts (line : List (Span × Event)) (now : Span) {event : Event}
    (counts : event.counts = true) :
    opened? (line ++ [(now, event)]) = opened? line ∧
      looks (line ++ [(now, event)]) = looks line := by
  rw [opened?_concat, looks_concat]
  cases event <;> first | exact ⟨rfl, rfl⟩ | cases counts

theorem append_of_counts (line : List (Span × Event)) (now : Span) {events : List Event}
    (counts : ∀ event ∈ events, event.counts = true) :
    opened? (line ++ events.map (now, ·)) = opened? line ∧
      looks (line ++ events.map (now, ·)) = looks line := by
  induction events generalizing line with
  | nil =>
    rw [List.map_nil, List.append_nil]
    exact ⟨rfl, rfl⟩
  | cons event rest ih =>
    obtain ⟨opened, looks⟩ := concat_of_counts line now (counts event List.mem_cons_self)
    obtain ⟨openedLast, looksLast⟩ :=
      ih (line ++ [(now, event)]) fun later member => counts later (List.mem_cons_of_mem _ member)
    rw [List.map_cons, List.append_cons]
    exact ⟨openedLast.trans opened, looksLast.trans looks⟩

/-! ### Graded answers -/

namespace Graded

variable {line : List (Span × Event)} {number round : Nat} {time : Span}

theorem concat (line : List (Span × Event)) (time : Span) {event : Event}
    (answer : event.isAnswer = true) :
    Graded (line ++ [(time, event)]) (answered line + 1) (started line) time :=
  ⟨line, event, [], rfl, answer, rfl, rfl⟩

theorem append (graded : Graded line number round time) (more : List (Span × Event)) :
    Graded (line ++ more) number round time := by
  obtain ⟨before, event, after, rfl, graded⟩ := graded
  exact ⟨before, event, after ++ more, List.append_assoc .., graded⟩

theorem le_answered (graded : Graded line number round time) : number ≤ answered line := by
  obtain ⟨before, event, after, rfl, answer, rfl, rfl⟩ := graded
  rw [answered, answered, List.countP_append, List.countP_cons, if_pos answer]
  omega

theorem le_started (graded : Graded line number round time) : round ≤ started line := by
  obtain ⟨before, event, after, rfl, answer, rfl, rfl⟩ := graded
  rw [started, started, List.countP_append]
  exact Nat.le_add_right _ _

/-- What comes later grades none of the earlier answers. -/
theorem of_append {more : List (Span × Event)} (graded : Graded (line ++ more) number round time)
    (early : number ≤ answered line) : Graded line number round time := by
  obtain ⟨before, event, after, parts, answer, rfl, rfl⟩ := graded
  rcases List.append_eq_append_iff.mp parts with ⟨between, rfl, -⟩ | ⟨rest, rfl, tail⟩
  · rw [answered, answered, List.countP_append] at early
    omega
  · cases rest with
    | nil =>
      rw [List.append_nil] at early
      exact absurd early (Nat.not_succ_le_self _)
    | cons entry rest =>
      obtain ⟨rfl, -⟩ := List.cons.inj tail
      exact ⟨before, event, rest, rfl, answer, rfl, rfl⟩

end Graded
end Timeline
end TimedQuiz
