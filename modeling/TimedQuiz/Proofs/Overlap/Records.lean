/-
**What the recorder has to write, and what it has written.**

Of all events the recorder writes those that carry counters to be kept. Whoever reads the store
finds the counters that were written last.

* `Log.latest`: the counters of a player that some events carry last.
* `Log.latest_eq_totals`: in a balanced log these are the totals, however far it has been written.
* `Log.latest_eq_totals_iff`: they are the totals of the whole log just when no answer of the player
  is still to be written.
-/

import Mathlib.Data.List.Basic
import TimedQuiz.Proofs.Ledger

namespace TimedQuiz

/-- The counters that the recorder writes for an event. -/
def Event.counters? : Event → Option Player
  | answerGraded _ _ player => some player
  | roundEnded player _ => some player
  | _ => none

theorem Event.account?_of_counters? {event : Event} {player : Player}
    (counts : event.counters? = some player) : event.account? = some player := by
  cases event with
  | answerGraded value correct answerer => exact counts
  | roundEnded leaver summary => exact counts
  | _ => cases counts

namespace Log

variable {log : List Event} {event : Event} {player : Player} {username : String}

/-- The events that have to be written. -/
def records (log : List Event) : List Event := log.filter fun event => event.counters?.isSome

/-- The counters of a player that some events carry last. -/
def latest (username : String) (log : List Event) : Player :=
  ((log.filterMap Event.counters?).filter fun player => player.username = username).getLast?.getD
    (Player.fresh username)

/-! ### Records -/

theorem records_append (more : List Event) : records (log ++ more) = records log ++ records more :=
  List.filter_append ..

theorem records_concat_some (counts : event.counters? = some player) :
    records (log ++ [event]) = records log ++ [event] := by
  rw [records_append, records, records, List.filter_singleton, counts]
  rfl

theorem records_concat_none (silent : event.counters? = none) :
    records (log ++ [event]) = records log := by
  rw [records_append, records, records, List.filter_singleton, silent]
  exact List.append_nil _

theorem isSome_of_mem_records (member : event ∈ records log) : event.counters?.isSome = true :=
  (List.mem_filter.mp member).2

/-- The records carry all counters that there are. -/
theorem filterMap_records :
    (records log).filterMap Event.counters? = log.filterMap Event.counters? := by
  rw [records, List.filterMap_filter]
  refine List.filterMap_congr fun event _ => ?_
  cases counts : event.counters? <;> rfl

/-- Every record carries counters. -/
theorem length_counters_drop (log : List Event) (count : Nat) :
    (((records log).drop count).filterMap Event.counters?).length =
      (records log).length - count := by
  rw [List.length_filterMap_eq_countP, ← List.length_drop, List.countP_eq_length]
  exact fun event member => isSome_of_mem_records (List.mem_of_mem_drop member)

/-- **What has been written stays when a log grows, and what is announced comes last.** -/
theorem records_grown {count : Nat} (within : count ≤ (records log).length) (more : List Event) :
    count ≤ (records (log ++ more)).length ∧
      (records (log ++ more)).take count = (records log).take count ∧
      ((records (log ++ more)).drop count).filterMap Event.counters? =
        ((records log).drop count).filterMap Event.counters? ++
          more.filterMap Event.counters? := by
  rw [records_append, List.length_append]
  refine ⟨Nat.le_add_right_of_le within, List.take_append_of_le_length within, ?_⟩
  rw [List.drop_append_of_le_length within, List.filterMap_append, filterMap_records]

/-- Every answer has to be written. -/
theorem verdicts_records : verdicts username (records log) = verdicts username log := by
  rw [verdicts, records, List.filterMap_filter, verdicts]
  refine List.filterMap_congr fun event _ => ?_
  cases event <;> rfl

theorem totals_records (log : List Event) :
    totals username (records log) = totals username log := by
  rw [totals, verdicts_records, totals]

/-! ### The latest counters -/

theorem latest_concat (event : Event) :
    latest username (log ++ [event]) =
      (event.counters?.filter fun player => player.username = username).getD
        (latest username log) := by
  rw [latest, List.filterMap_append, List.filter_append, latest]
  cases counts : event.counters? with
  | none => simp [counts]
  | some player => by_cases own : player.username = username <;> simp [counts, own, Option.filter]

theorem latest_username (username : String) (log : List Event) :
    (latest username log).username = username := by
  induction log using List.reverseRecOn with
  | nil => rfl
  | append_singleton log event ih =>
    rw [latest_concat]
    cases carried : event.counters?.filter fun player => player.username = username with
    | none => exact ih
    | some player => exact of_decide_eq_true (Option.filter_eq_some_iff.mp carried).2

/-- **What is written next is the first of what is still to be written.** -/
theorem latest_take_succ {count : Nat} {rest : List Player}
    (next : ((records log).drop count).filterMap Event.counters? = player :: rest) :
    count + 1 ≤ (records log).length ∧
      ((records log).drop (count + 1)).filterMap Event.counters? = rest ∧
      ∀ username, latest username ((records log).take (count + 1)) =
        if player.username = username then player
        else latest username ((records log).take count) := by
  cases left : (records log).drop count with
  | nil =>
    rw [left] at next
    cases next
  | cons event more =>
    have member : event ∈ records log := List.mem_of_mem_drop (left ▸ List.mem_cons_self)
    obtain ⟨found, counts⟩ := Option.isSome_iff_exists.mp (isSome_of_mem_records member)
    rw [left, List.filterMap_cons_some counts] at next
    obtain ⟨rfl, rfl⟩ := List.cons.inj next
    have here : (records log)[count]? = some event := by
      rw [← List.head?_drop, left]
      rfl
    refine ⟨(List.getElem?_eq_some_iff.mp here).1, ?_, fun username => ?_⟩
    · rw [← List.tail_drop, left]
      rfl
    · rw [List.take_add_one, here, Option.toList_some, latest_concat, counts]
      by_cases own : found.username = username <;> simp [own, Option.filter]

/-- Nobody has counters without having started a round. -/
theorem Fits.latest_of_absent (fits : Fits log)
    (absent : ∀ starter, .roundStarted starter ∈ log → starter.username ≠ username) (count : Nat) :
    latest username ((records log).take count) = Player.fresh username := by
  have none : (((records log).take count).filterMap Event.counters?).filter
      (fun player => player.username = username) = [] := by
    refine List.filter_eq_nil_iff.mpr fun player written own => ?_
    obtain ⟨event, taken, counts⟩ := List.mem_filterMap.mp written
    have told : event ∈ log := List.mem_of_mem_filter (List.mem_of_mem_take taken)
    obtain ⟨starter, started, same⟩ :=
      fits.starter_of_account told (Event.account?_of_counters? counts)
    exact absent starter started (same.trans (of_decide_eq_true own))
  rw [latest, none]
  rfl

/-- **However far a balanced log has been written, the counters written last are the totals of what
has been written.** -/
theorem latest_eq_totals (balanced : Balanced log) (count : Nat) :
    latest username ((records log).take count) = totals username ((records log).take count) := by
  induction log using List.reverseRecOn generalizing count with
  | nil => rw [records, List.filter_nil, List.take_nil]; rfl
  | append_singleton log event ih =>
    have before := ih balanced.init
    cases counts : event.counters? with
    | none =>
      rw [records_concat_none counts]
      exact before count
    | some player =>
      rw [records_concat_some counts]
      by_cases within : count ≤ (records log).length
      · rw [List.take_append_of_le_length within]
        exact before count
      · have all : ((records log ++ [event]).take count) = records log ++ [event] := by
          refine List.take_of_length_le ?_
          rw [List.length_append, List.length_singleton]
          omega
        rw [all, latest_concat, counts]
        by_cases own : player.username = username
        · have carried := balanced.account_eq (Event.account?_of_counters? counts)
          rw [← records_concat_some counts, totals_records, ← own, ← carried]
          simp [Option.filter]
        · have silent : event.verdict? username = none :=
            (Event.silent_of_account fun other carried => by
              rw [Event.account?_of_counters? counts] at carried
              exact Option.some.inj carried ▸ own).1
          have whole := before (records log).length
          rw [List.take_length] at whole
          rw [totals_concat_none silent, ← whole]
          simp [Option.filter, own]

/-- More answers make other totals. -/
theorem totals_append_eq_iff (more : List Event) :
    totals username log = totals username (log ++ more) ↔ verdicts username more = [] := by
  constructor
  · intro same
    have attempts : (verdicts username log).length = (verdicts username (log ++ more)).length :=
      congrArg Player.totalAttempts same
    rw [verdicts, verdicts, List.filterMap_append, List.length_append] at attempts
    exact List.eq_nil_of_length_eq_zero (Nat.left_eq_add.mp attempts)
  · intro none
    have same : verdicts username (log ++ more) = verdicts username log := by
      rw [verdicts, List.filterMap_append]
      exact (congrArg _ none).trans (List.append_nil _)
    rw [totals, totals, same]

/-- **The counters written last are the totals of a balanced log exactly when no answer of the
player is still to be written.** -/
theorem latest_eq_totals_iff (balanced : Balanced log) (count : Nat) :
    latest username ((records log).take count) = totals username log ↔
      verdicts username ((records log).drop count) = [] := by
  rw [latest_eq_totals balanced, ← totals_records log, ← totals_append_eq_iff,
    List.take_append_drop]

end Log
end TimedQuiz
