/-
**The recorder keeps the store in step with the log.**

* `Recorder.drain_hear`: what is heard is written at once, as long as nothing else is queued.
* `Mirrors`: the store holds of every player what the log tells.
* `Mirrors.recorded`: recording the next event of a balanced log keeps this.

The counters of a player are replaced and not added to, so they are right after every event that
carries the totals, whatever the store held before. The rounds played and the best score build on
what is stored.
-/

import TimedQuiz.Proofs.Ledger
import TimedQuiz.Proofs.Store
import TimedQuiz.Recorder

namespace TimedQuiz

open Store

namespace Recorder

/-! ### A single event -/

/-- The tables once an event has been recorded. -/
def recorded (id : ResultId) (wall : Timestamp) (event : Event) (memory : Memory) : Memory :=
  ((jobOf? id wall event).map (write {} wall memory)).getD memory

/-- **Without a queue, what is heard is written at once.** -/
theorem drain_hear {recorder : Recorder} {storage : Storage} (idle : recorder.queue = [])
    (healthy : storage.installed = some {}) (wall : Timestamp) (event : Event) :
    (recorder.hear wall event).drain wall storage =
      ({ recorder with
          nextResult :=
            recorder.nextResult + (jobOf? recorder.nextResult wall event).isSome.toNat },
        { storage with
          memory := recorded recorder.nextResult wall event storage.memory }) := by
  obtain ⟨queue, nextResult, released⟩ := recorder
  obtain ⟨memory, installed⟩ := storage
  obtain rfl : queue = [] := idle
  obtain rfl : installed = some {} := healthy
  cases event <;> rfl

/-- Users are left alone. -/
theorem findUser_recorded (id : ResultId) (wall : Timestamp) (event : Event) (memory : Memory)
    (username : String) :
    (recorded id wall event memory).findUser username = memory.findUser username := by
  cases event <;> rfl

/-- No record is taken away, and none is added of a player who has one. -/
theorem isSome_recorded (id : ResultId) (wall : Timestamp) (event : Event) (memory : Memory)
    (username : String)
    (known : ∀ player, event.account? = some player →
      (memory.loadPlayer player.username).isSome = true) :
    ((recorded id wall event memory).loadPlayer username).isSome =
      (memory.loadPlayer username).isSome := by
  cases event with
  | answerGraded value correct player =>
    exact memory.isSome_updateRanking username player (known player rfl)
  | roundEnded player summary =>
    exact memory.isSome_roundFinished username player wall _ (known player rfl)
  | _ => rfl

/-- Every identity in use has been given out. -/
def Numbered (next : ResultId) (memory : Memory) : Prop :=
  ∀ id, (memory.results.get? id).isSome = true → id < next

theorem Numbered.recorded {next : ResultId} {memory : Memory} (numbered : Numbered next memory)
    (wall : Timestamp) (event : Event) :
    Numbered (next + (jobOf? next wall event).isSome.toNat)
      (Recorder.recorded next wall event memory) := by
  have later : ∀ id, (memory.results.get? id).isSome = true → id < next + 1 :=
    fun id used => Nat.lt_succ_of_lt (numbered id used)
  cases event with
  | answerGraded value correct player => exact later
  | roundEnded player summary =>
    intro id used
    change ((memory.results.insert next _).get? id).isSome = true at used
    rw [Table.get?_insert] at used
    split at used
    · rename_i same
      rw [same]
      exact Nat.lt_succ_self next
    · exact later id used
  | _ => exact numbered

end Recorder

/-! ### The store and the log -/

/-- The record holds what the log tells of a player. -/
structure Tells (log : List Event) (username : String) (record : PlayerRecord) : Prop where
  stats : record.stats = Log.totals username log
  gamesPlayed : record.gamesPlayed = (Log.results username log).length
  bestScore : record.bestScore = (Log.results username log).foldl max 0

/-- The store holds of every player what the log tells. -/
structure Mirrors (memory : Memory) (log : List Event) : Prop where
  records : ∀ username, Tells log username (memory.recordOrInitial username)
  resultCount : ∀ username, memory.resultCount username = (Log.results username log).length

namespace Tells

variable {log : List Event} {event : Event} {username : String} {record : PlayerRecord}

/-- Nothing is told of a player who comes anew. -/
theorem initial (untold : Log.verdicts username log = [] ∧ Log.results username log = []) :
    Tells log username (.initial username) where
  stats := by rw [Log.totals, untold.1]; rfl
  gamesPlayed := by rw [untold.2]; rfl
  bestScore := by rw [untold.2]; rfl

/-- What tells nothing of the player leaves the record right. -/
theorem silent (tells : Tells log username record)
    (silent : event.verdict? username = none ∧ event.result? username = none) :
    Tells (log ++ [event]) username record where
  stats := by rw [Log.totals_concat_none silent.1]; exact tells.stats
  gamesPlayed := by rw [Log.results_concat_none silent.2]; exact tells.gamesPlayed
  bestScore := by rw [Log.results_concat_none silent.2]; exact tells.bestScore

variable {player : Player}

/-- Only the counters depend on an answer, and they come with it. -/
theorem answered {value : Int} {correct : Bool} (tells : Tells log player.username record)
    (balanced : Log.Balanced (log ++ [.answerGraded value correct player])) :
    Tells (log ++ [.answerGraded value correct player]) player.username
      { record with stats := player } where
  stats := balanced.account_eq rfl
  gamesPlayed := by rw [Log.results_concat_none rfl]; exact tells.gamesPlayed
  bestScore := by rw [Log.results_concat_none rfl]; exact tells.bestScore

/-- The end of a round brings the counters and one more result. -/
theorem ended {summary : Summary} {wall : Timestamp} (tells : Tells log player.username record)
    (balanced : Log.Balanced (log ++ [.roundEnded player summary])) :
    Tells (log ++ [.roundEnded player summary]) player.username
      (Memory.countRound player summary.score wall record) := by
  have one : Log.results player.username (log ++ [.roundEnded player summary]) =
      Log.results player.username log ++ [summary.score] :=
    Log.results_concat_some (Event.result?_own player summary)
  constructor
  · exact balanced.account_eq rfl
  · rw [one, List.length_append, ← tells.gamesPlayed]
    rfl
  · rw [one, List.foldl_append, ← tells.bestScore]
    rfl

end Tells

namespace Mirrors

variable {memory : Memory} {log : List Event} {event : Event} {id : ResultId} {wall : Timestamp}

theorem initial : Mirrors {} [] where
  records _ := .initial ⟨rfl, rfl⟩
  resultCount _ := rfl

/-- What tells nothing of any player changes nothing. -/
theorem silent (mirrors : Mirrors memory log)
    (silent : ∀ username, event.verdict? username = none ∧ event.result? username = none) :
    Mirrors memory (log ++ [event]) where
  records username := (mirrors.records username).silent (silent username)
  resultCount username := by
    rw [Log.results_concat_none (silent username).2]
    exact mirrors.resultCount username

/-- Whoever is registered anew has not been told of. -/
theorem registered (mirrors : Mirrors memory log) {user : UserRecord}
    (free : memory.findUser user.username = none)
    (untold : Log.verdicts user.username log = [] ∧ Log.results user.username log = []) :
    Mirrors (memory.registerUser user).2 log where
  records username := by
    rw [memory.recordOrInitial_registerUser username free]
    split
    · rename_i same
      rw [same]
      exact .initial untold
    · exact mirrors.records username
  resultCount := by
    rw [memory.registerUser_free free]
    exact mirrors.resultCount

/-- A graded answer replaces the counters of its player. -/
theorem answered (mirrors : Mirrors memory log) {value : Int} {correct : Bool} {player : Player}
    (balanced : Log.Balanced (log ++ [.answerGraded value correct player])) :
    Mirrors (memory.updateRanking player) (log ++ [.answerGraded value correct player]) where
  records username := by
    rw [Memory.recordOrInitial_updateRanking]
    split
    · rename_i same
      rw [same]
      exact (mirrors.records player.username).answered balanced
    · rename_i other
      exact (mirrors.records username).silent ⟨Event.verdict?_other value correct other, rfl⟩
  resultCount username := by
    rw [Log.results_concat_none rfl]
    exact mirrors.resultCount username

/-- The end of a round replaces the counters, counts the round and keeps its result. -/
theorem ended (mirrors : Mirrors memory log) {player : Player} {summary : Summary}
    {result : RoundResult} (balanced : Log.Balanced (log ++ [.roundEnded player summary]))
    (own : result.username = player.username) (score : result.score = summary.score)
    (fresh : memory.results.get? result.id = none) :
    Mirrors ((memory.savePlayer player wall).saveResult result)
      (log ++ [.roundEnded player summary]) where
  records username := by
    rw [Memory.recordOrInitial_roundFinished _ _ _ _ _ own]
    split
    · rename_i same
      rw [same, score]
      exact (mirrors.records player.username).ended balanced
    · rename_i other
      exact (mirrors.records username).silent ⟨rfl, Event.result?_other summary other⟩
  resultCount username := by
    have saved := (memory.savePlayer player wall).resultCount_saveResult username fresh
    have before : (memory.savePlayer player wall).resultCount username =
        (Log.results username log).length := mirrors.resultCount username
    rw [saved, own, before]
    by_cases same : username = player.username
    · rw [same, Log.results_concat_some (Event.result?_own player summary), List.length_append,
        beq_self_eq_true]
      rfl
    · rw [Log.results_concat_none (Event.result?_other summary same),
        beq_false_of_ne (Ne.symm same)]
      rfl

/-- **Recording the next event keeps the store in step with the log.** -/
theorem recorded (mirrors : Mirrors memory log) (balanced : Log.Balanced (log ++ [event]))
    (fresh : memory.results.get? id = none) :
    Mirrors (Recorder.recorded id wall event memory) (log ++ [event]) := by
  cases event with
  | answerGraded value correct player => exact mirrors.answered balanced
  | roundEnded player summary => exact mirrors.ended balanced rfl rfl fresh
  | _ => exact mirrors.silent fun _ => ⟨rfl, rfl⟩

end Mirrors
end TimedQuiz
