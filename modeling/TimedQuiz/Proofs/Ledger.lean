/-
**What a log tells of each player.**

The log is read player by player, over all rounds: `Log.verdicts` are the verdicts on a player's
answers, `Log.results` the scores of the player's rounds that are over, and `Log.totals` the
counters that come of the verdicts.

When every start carries the totals of its player, the counters need not be added up from the log:

* `Log.Balanced.account_eq`: every event that carries a player carries the player's totals.
* `Log.Fits.untouched`: nothing is told of a player who has never started a round.
-/

import Mathlib.Data.List.Induction
import TimedQuiz.Proofs.Log

namespace TimedQuiz

namespace Event

/-- The verdict on an answer of a player. -/
def verdict? (username : String) : Event → Option Bool
  | answerGraded _ correct player => if player.username = username then some correct else none
  | _ => none

/-- The score of a round of a player, when it is over. -/
def result? (username : String) : Event → Option Nat
  | roundEnded player summary => if player.username = username then some summary.score else none
  | _ => none

/-- The player whose counters the event carries. -/
def account? : Event → Option Player
  | roundStarted player => some player
  | answerGraded _ _ player => some player
  | roundEnded player _ => some player
  | _ => none

theorem verdict?_own (value : Int) (correct : Bool) (player : Player) :
    (answerGraded value correct player).verdict? player.username = some correct := if_pos rfl

theorem result?_own (player : Player) (summary : Summary) :
    (roundEnded player summary).result? player.username = some summary.score := if_pos rfl

theorem verdict?_other (value : Int) (correct : Bool) {player : Player} {username : String}
    (other : username ≠ player.username) :
    (answerGraded value correct player).verdict? username = none := if_neg (Ne.symm other)

theorem result?_other {player : Player} {username : String} (summary : Summary)
    (other : username ≠ player.username) :
    (roundEnded player summary).result? username = none := if_neg (Ne.symm other)

/-- An event that carries the counters of others tells nothing of a player. -/
theorem silent_of_account {event : Event} {username : String}
    (others : ∀ player, event.account? = some player → player.username ≠ username) :
    event.verdict? username = none ∧ event.result? username = none := by
  cases event with
  | answerGraded value correct player =>
    exact ⟨verdict?_other value correct (others player rfl).symm, rfl⟩
  | roundEnded player summary => exact ⟨rfl, result?_other summary (others player rfl).symm⟩
  | _ => exact ⟨rfl, rfl⟩

end Event

namespace Log

variable {log before : List Event} {event : Event} {player : Player} {username : String}

/-- The verdicts on all answers of a player. -/
def verdicts (username : String) (log : List Event) : List Bool :=
  log.filterMap (Event.verdict? username)

/-- The scores of all rounds of a player that are over. -/
def results (username : String) (log : List Event) : List Nat :=
  log.filterMap (Event.result? username)

/-- A player with the counters of all rounds. -/
def totals (username : String) (log : List Event) : Player :=
  { username
    totalScore := (verdicts username log).count true
    correctAnswers := (verdicts username log).count true
    totalAttempts := (verdicts username log).length }

/-! ### A log that grows -/

theorem verdicts_concat :
    verdicts username (log ++ [event]) =
      verdicts username log ++ (event.verdict? username).toList := by
  rw [verdicts, List.filterMap_append, verdicts]
  cases told : event.verdict? username <;> simp [told]

theorem results_concat_some {score : Nat} (told : event.result? username = some score) :
    results username (log ++ [event]) = results username log ++ [score] := by
  rw [results, List.filterMap_append, List.filterMap_cons_some told, List.filterMap_nil, results]

theorem results_concat_none (silent : event.result? username = none) :
    results username (log ++ [event]) = results username log := by
  rw [results, List.filterMap_append, List.filterMap_cons_none silent, List.filterMap_nil,
    List.append_nil, results]

theorem totals_concat_some {correct : Bool} (told : event.verdict? username = some correct) :
    totals username (log ++ [event]) = (totals username log).recordAnswer correct := by
  rw [totals, verdicts_concat, told]
  cases correct <;> simp [totals, Player.recordAnswer]

theorem totals_concat_none (silent : event.verdict? username = none) :
    totals username (log ++ [event]) = totals username log := by
  rw [totals, verdicts_concat, silent, Option.toList_none, List.append_nil, totals]

/-- An answer counts for the player of the round. -/
theorem player?_concat_answer {value : Int} {correct : Bool} :
    player? (log ++ [.answerGraded value correct player]) =
      (player? log).map fun former => former.recordAnswer correct := by
  rw [player?_concat rfl]
  rfl

/-- Nothing but a start and an answer changes the player of the round. -/
theorem player?_concat_other (going : event.starter? = none) (other : event.isAnswer = false) :
    player? (log ++ [event]) = player? log := by
  have wrong : event.isCorrect = false := by
    cases correct : event.isCorrect with
    | false => rfl
    | true => exact (Event.isAnswer_of_isCorrect correct).symm.trans other
  rw [player?_concat going, wrong, other]
  cases player? log <;> rfl

/-! ### Starts that carry the totals -/

/-- A start carries the totals of its player. -/
def Carries (before : List Event) : Event → Prop
  | .roundStarted player => player = totals player.username before
  | _ => True

/-- The events fit, and every start carries the totals of its player. -/
structure Balanced (log : List Event) : Prop where
  fits : Fits log
  carries : EachAfter Carries log

theorem Balanced.init (balanced : Balanced (before ++ log)) : Balanced before where
  fits := EachAfter.init balanced.fits
  carries := balanced.carries.init

/-- **The player of the current round has the totals of the log.** -/
theorem Balanced.player?_eq (balanced : Balanced log) (present : player? log = some player) :
    player = totals player.username log := by
  -- Between starts the player is counted on as the totals are; a start has them by assumption.
  induction log using List.reverseRecOn generalizing player with
  | nil => cases present
  | append_singleton log event ih =>
    have balancedBefore := balanced.init
    cases event with
    | roundStarted starter =>
      have carried : starter = totals starter.username log := balanced.carries.last
      rw [player?, starter?_concat, score, attempts, sinceStart_concat_start] at present
      obtain rfl : starter = player := Option.some.inj present
      exact carried.trans (totals_concat_none rfl).symm
    | answerGraded value correct answerer =>
      have carried : player? _ = some answerer := (EachAfter.last balanced.fits).2
      obtain rfl : player = answerer := Option.some.inj (present.symm.trans carried)
      rw [player?_concat_answer, Option.map_eq_some_iff] at present
      obtain ⟨former, found, rfl⟩ := present
      rw [totals_concat_some (Event.verdict?_own value correct _)]
      exact congrArg (Player.recordAnswer · correct) (ih balancedBefore found)
    | _ =>
      rw [player?_concat_other rfl rfl] at present
      rw [totals_concat_none rfl]
      exact ih balancedBefore present

/-- **Every event that carries a player carries the player's totals.** -/
theorem Balanced.account_eq (balanced : Balanced (log ++ [event]))
    (carried : event.account? = some player) :
    player = totals player.username (log ++ [event]) := by
  cases event with
  | roundStarted starter =>
    obtain rfl : starter = player := Option.some.inj carried
    have fresh : starter = totals starter.username log := balanced.carries.last
    exact fresh.trans (totals_concat_none rfl).symm
  | answerGraded value correct answerer =>
    obtain rfl : answerer = player := Option.some.inj carried
    exact balanced.player?_eq (EachAfter.last balanced.fits).2
  | roundEnded leaver summary =>
    obtain rfl : leaver = player := Option.some.inj carried
    have same := balanced.init.player?_eq (EachAfter.last balanced.fits).1
    exact same.trans (totals_concat_none rfl).symm
  | _ => cases carried

/-! ### Who is told of -/

/-- Whoever plays has started the round. -/
theorem starter_of_player? (present : player? log = some player) :
    ∃ starter, .roundStarted starter ∈ log ∧ starter.username = player.username := by
  rw [player?, Option.map_eq_some_iff] at present
  obtain ⟨starter, found, rfl⟩ := present
  obtain ⟨event, member, starts⟩ := List.exists_of_findSome?_eq_some found
  rw [List.mem_reverse] at member
  cases event with
  | roundStarted player =>
    obtain rfl : player = starter := Option.some.inj starts
    exact ⟨player, member, rfl⟩
  | _ => cases starts

/-- Every player that is carried has started a round. -/
theorem Fits.starter_of_account (fits : Fits log) (member : event ∈ log)
    (carried : event.account? = some player) :
    ∃ starter, .roundStarted starter ∈ log ∧ starter.username = player.username := by
  obtain ⟨before, after, rfl⟩ := List.append_of_mem member
  have fitting := fits before event after rfl
  cases event with
  | roundStarted starter =>
    obtain rfl : starter = player := Option.some.inj carried
    exact ⟨starter, member, rfl⟩
  | answerGraded value correct answerer =>
    obtain rfl : answerer = player := Option.some.inj carried
    obtain ⟨starter, started, same⟩ := starter_of_player? fitting.2
    refine ⟨starter, ?_, same⟩
    rw [List.append_cons]
    exact List.mem_append_left after started
  | roundEnded leaver summary =>
    obtain rfl : leaver = player := Option.some.inj carried
    obtain ⟨starter, started, same⟩ := starter_of_player? fitting.1
    exact ⟨starter, List.mem_append_left _ started, same⟩
  | _ => cases carried

/-- **Nothing is told of a player who has never started a round.** -/
theorem Fits.untouched (fits : Fits log)
    (absent : ∀ starter, .roundStarted starter ∈ log → starter.username ≠ username) :
    verdicts username log = [] ∧ results username log = [] := by
  have silent : ∀ event ∈ log, event.verdict? username = none ∧ event.result? username = none := by
    intro event member
    refine Event.silent_of_account fun player carried => ?_
    obtain ⟨starter, started, same⟩ := fits.starter_of_account member carried
    rw [← same]
    exact absent starter started
  exact ⟨List.filterMap_eq_nil_iff.mpr fun event member => (silent event member).1,
    List.filterMap_eq_nil_iff.mpr fun event member => (silent event member).2⟩

end Log
end TimedQuiz
