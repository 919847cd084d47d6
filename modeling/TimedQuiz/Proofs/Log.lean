/-
**What a log of events tells.**

A log is read from its end: the latest start says whose round it is, and what follows it says how
the round goes. Nothing here knows how the coordinator keeps its own books.

For each reading there is a rule for a log that grows by one event.
-/

import TimedQuiz.Event
import TimedQuiz.Phase

namespace TimedQuiz

/-! ### Entries and what comes before them -/

/-- Every entry of a list fits what comes before it. -/
def EachAfter {α : Type} (fits : List α → α → Prop) (entries : List α) : Prop :=
  ∀ before entry after, entries = before ++ entry :: after → fits before entry

namespace EachAfter

variable {α : Type} {fits : List α → α → Prop} {entries : List α}

theorem nil : EachAfter fits [] := fun before entry after split => by
  cases before <;> cases split

theorem concat {last : α} (each : EachAfter fits entries) (fitting : fits entries last) :
    EachAfter fits (entries ++ [last]) := by
  intro before found after split
  rcases List.eq_nil_or_concat after with rfl | ⟨more, final, rfl⟩
  · obtain ⟨rfl, same⟩ := List.append_inj' split rfl
    obtain rfl := (List.cons.inj same).1
    exact fitting
  · rw [List.concat_eq_append, ← List.cons_append, ← List.append_assoc] at split
    exact each before found more (List.append_inj' split rfl).1

/-- What fits after anything may be added. -/
theorem append {more : List α} (each : EachAfter fits entries)
    (always : ∀ entry ∈ more, ∀ before, fits before entry) : EachAfter fits (entries ++ more) := by
  induction more generalizing entries with
  | nil => rwa [List.append_nil]
  | cons entry rest ih =>
    rw [List.append_cons]
    exact ih (each.concat (always entry List.mem_cons_self entries)) fun later member =>
      always later (List.mem_cons_of_mem _ member)

theorem init {more : List α} (each : EachAfter fits (entries ++ more)) :
    EachAfter fits entries := by
  rintro before found after rfl
  exact each before found (after ++ more) (List.append_assoc ..)

/-- The first entry fits after nothing, and the others after the first. -/
theorem cons_iff {first : α} :
    EachAfter fits (first :: entries) ↔
      fits [] first ∧ EachAfter (fun before => fits (first :: before)) entries := by
  constructor
  · intro each
    refine ⟨each [] first entries rfl, fun before entry after split => ?_⟩
    exact each (first :: before) entry after (congrArg (first :: ·) split)
  · rintro ⟨fitting, each⟩ before entry after split
    cases before with
    | nil =>
      obtain ⟨rfl, rfl⟩ := List.cons.inj split
      exact fitting
    | cons earliest between =>
      obtain ⟨rfl, same⟩ := List.cons.inj split
      exact each between entry after same

theorem last {final : α} (each : EachAfter fits (entries ++ [final])) : fits entries final :=
  each entries final [] rfl

/-- Whether each entry fits can be found out place by place. -/
instance [∀ before entry, Decidable (fits before entry)] (entries : List α) :
    Decidable (EachAfter fits entries) :=
  decidable_of_iff
      (∀ place : Fin entries.length, fits (entries.take place) (entries.get place)) <| by
    constructor
    · rintro each before entry after rfl
      have place := each ⟨before.length, by simp⟩
      simpa using place
    · intro each place
      refine each _ _ (entries.drop (place + 1)) ?_
      rw [List.get_eq_getElem, List.getElem_cons_drop, List.take_append_drop]

end EachAfter

/-! ### Single events -/

namespace Event

/-- The player whose round the event starts. -/
def starter? : Event → Option Player
  | roundStarted player => some player
  | _ => none

/-- The phase that begins with the event. -/
def phase? : Event → Option Phase
  | roundStarted _ => some .running
  | roundEnded _ _ => some .ended
  | _ => none

/-- The puzzle that the event brings. -/
def puzzle? : Event → Option Puzzle
  | puzzleLoaded puzzle => some puzzle
  | _ => none

/-- An answer was graded. -/
def isAnswer : Event → Bool
  | answerGraded _ _ _ => true
  | _ => false

/-- An answer was graded and correct. -/
def isCorrect : Event → Bool
  | answerGraded _ correct _ => correct
  | _ => false

theorem starter?_eq_none {event : Event} (other : event.kind ≠ .roundStarted) :
    event.starter? = none := by
  cases event with
  | roundStarted player => exact absurd rfl other
  | _ => rfl

theorem isAnswer_of_isCorrect {event : Event} (correct : event.isCorrect = true) :
    event.isAnswer = true := by
  cases event with
  | answerGraded _ _ _ => rfl
  | _ => cases correct

end Event

/-! ### Readings of a log -/

namespace Log

/-- The player of the latest start. -/
def starter? (log : List Event) : Option Player := log.reverse.findSome? Event.starter?

/-- What was announced after the latest start. -/
def sinceStart (log : List Event) : List Event :=
  (log.reverse.takeWhile fun event => event.starter?.isNone).reverse

/-- The phase: it begins with the latest start or end. -/
def phase (log : List Event) : Phase :=
  if log.isEmpty then .idle else (log.reverse.findSome? Event.phase?).getD .ended

/-- The latest puzzle since the start. -/
def puzzle? (log : List Event) : Option Puzzle :=
  (sinceStart log).reverse.findSome? Event.puzzle?

/-- The number of answers since the start. -/
def attempts (log : List Event) : Nat := (sinceStart log).countP Event.isAnswer

/-- The number of correct answers since the start. -/
def score (log : List Event) : Nat := (sinceStart log).countP Event.isCorrect

/-- The player of the latest start, with the answers since then added to the counters. -/
def player? (log : List Event) : Option Player :=
  (starter? log).map fun player =>
    { player with
      totalScore := player.totalScore + score log
      correctAnswers := player.correctAnswers + score log
      totalAttempts := player.totalAttempts + attempts log }

/-- There are no more correct answers than answers. -/
theorem score_le_attempts (log : List Event) : score log ≤ attempts log :=
  List.countP_mono_left fun _ _ => Event.isAnswer_of_isCorrect

/-! ### A log that grows -/

section Grown

variable {log : List Event} {event : Event}

theorem starter?_concat : starter? (log ++ [event]) = event.starter?.or (starter? log) := by
  unfold starter?
  rw [List.reverse_append, List.reverse_singleton, List.singleton_append, List.findSome?_cons]
  cases event.starter? <;> rfl

theorem sinceStart_concat :
    sinceStart (log ++ [event]) =
      if event.starter?.isNone then sinceStart log ++ [event] else [] := by
  unfold sinceStart
  rw [List.reverse_append, List.reverse_singleton, List.singleton_append, List.takeWhile_cons]
  split
  · rw [List.reverse_cons]
  · rfl

theorem phase_concat_some {opened : Phase} (opens : event.phase? = some opened) :
    phase (log ++ [event]) = opened := by
  unfold phase
  rw [if_neg (by simp), List.reverse_append, List.reverse_singleton, List.singleton_append,
    List.findSome?_cons, opens]
  rfl

/-- An event that begins no phase leaves a running round running. -/
theorem phase_concat_running (running : phase log = .running) (same : event.phase? = none) :
    phase (log ++ [event]) = .running := by
  unfold phase at running ⊢
  rw [if_neg (by simp), List.reverse_append, List.reverse_singleton, List.singleton_append,
    List.findSome?_cons, same]
  split at running
  · cases running
  · exact running

/-- A start begins a new account. -/
theorem sinceStart_concat_start {player : Player} :
    sinceStart (log ++ [.roundStarted player]) = [] := by
  rw [sinceStart_concat]
  rfl

section Going

variable (going : event.starter? = none)
include going

theorem sinceStart_concat_going : sinceStart (log ++ [event]) = sinceStart log ++ [event] := by
  rw [sinceStart_concat, going]
  rfl

theorem attempts_concat : attempts (log ++ [event]) = attempts log + event.isAnswer.toNat := by
  rw [attempts, sinceStart_concat_going going, List.countP_append, List.countP_singleton, attempts]
  cases event.isAnswer <;> rfl

theorem score_concat : score (log ++ [event]) = score log + event.isCorrect.toNat := by
  rw [score, sinceStart_concat_going going, List.countP_append, List.countP_singleton, score]
  cases event.isCorrect <;> rfl

theorem puzzle?_concat : puzzle? (log ++ [event]) = event.puzzle?.or (puzzle? log) := by
  rw [puzzle?, sinceStart_concat_going going, List.reverse_append, List.reverse_singleton,
    List.singleton_append, List.findSome?_cons, puzzle?]
  cases event.puzzle? <;> rfl

theorem player?_concat :
    player? (log ++ [event]) = (player? log).map fun player =>
      { player with
        totalScore := player.totalScore + event.isCorrect.toNat
        correctAnswers := player.correctAnswers + event.isCorrect.toNat
        totalAttempts := player.totalAttempts + event.isAnswer.toNat } := by
  rw [player?, player?, starter?_concat, going, Option.none_or, score_concat going,
    attempts_concat going, Option.map_map]
  simp only [Function.comp_def, Nat.add_assoc]

end Going
end Grown

/-! ### Events that carry an account -/

/-- The event says what follows from the log before it: a grade follows from the puzzle on display,
and whoever is announced with an answer or an end carries the counters of the log. -/
def FitsAfter (before : List Event) : Event → Prop
  | .answerGraded value correct player =>
    (∃ puzzle, puzzle? before = some puzzle ∧ correct = decide (puzzle.solution = value)) ∧
      player? (before ++ [.answerGraded value correct player]) = some player
  | .roundEnded player summary =>
    player? before = some player ∧ summary.score = score before ∧
      summary.attempts = attempts before
  | _ => True

/-- Every event of the log fits what comes before it. -/
def Fits (log : List Event) : Prop :=
  ∀ before event after, log = before ++ event :: after → FitsAfter before event

theorem Fits.concat {log : List Event} {event : Event} (fits : Fits log)
    (last : FitsAfter log event) : Fits (log ++ [event]) :=
  EachAfter.concat fits last

end Log
end TimedQuiz
