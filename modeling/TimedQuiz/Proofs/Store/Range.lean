/-
**The range of counters.**

A store counts without a bound here, while a counter of the program holds 32 bits and wraps around.
The two are the same as long as no counter leaves its range.

* `Memory.Small`: all counters of all players are in range.
* `Memory.small_after`: operations that bring numbers of 32 bits keep them there, as long as there
  are not more operations than a counter can count. Only finished rounds are counted by the store.
-/

import Mathlib.Data.List.Induction
import TimedQuiz.Proofs.Operation

namespace TimedQuiz.Store

/-! ### Records -/

/-- All counters of the record. -/
def PlayerRecord.counters (record : PlayerRecord) : List Nat :=
  [record.stats.totalScore, record.stats.correctAnswers, record.stats.totalAttempts,
   record.gamesPlayed, record.bestScore]

/-- All counters of the record are in the range of counters. -/
def PlayerRecord.Small (record : PlayerRecord) : Prop :=
  ∀ count ∈ record.counters, count ≤ counterLimit

instance : DecidablePred PlayerRecord.Small := fun record =>
  inferInstanceAs (Decidable (∀ count ∈ record.counters, count ≤ counterLimit))

/-- The numbers that an operation brings. -/
def Operation.numbers : Operation → List Nat
  | updateRanking stats | savePlayer stats =>
    [stats.totalScore, stats.correctAnswers, stats.totalAttempts]
  | saveResult result => [result.score]
  | _ => []

/-- The operation brings counters in range. -/
def Operation.Small (operation : Operation) : Prop :=
  ∀ count ∈ operation.numbers, count ≤ counterLimit

/-- The record is in range, and counts no more rounds than given. -/
structure PlayerRecord.Bounded (rounds : Nat) (record : PlayerRecord) : Prop where
  stats : (Operation.savePlayer record.stats).Small
  games : record.gamesPlayed ≤ rounds
  best : record.bestScore ≤ counterLimit

namespace PlayerRecord.Bounded

variable {rounds : Nat} {record : PlayerRecord}

theorem initial (rounds : Nat) (username : String) :
    (PlayerRecord.initial username).Bounded rounds :=
  ⟨by simp [Operation.Small, Operation.numbers, PlayerRecord.initial, Player.fresh],
    Nat.zero_le _, Nat.zero_le _⟩

theorem mono (bounded : record.Bounded rounds) {more : Nat} (le : rounds ≤ more) :
    record.Bounded more :=
  ⟨bounded.stats, Nat.le_trans bounded.games le, bounded.best⟩

theorem small (bounded : record.Bounded rounds) (few : rounds ≤ counterLimit) : record.Small := by
  have stats := bounded.stats
  simp only [Operation.Small, Operation.numbers, List.forall_mem_cons] at stats
  simp only [PlayerRecord.Small, PlayerRecord.counters, List.forall_mem_cons]
  exact ⟨stats.1, stats.2.1, stats.2.2.1, Nat.le_trans bounded.games few, bounded.best, by simp⟩

end PlayerRecord.Bounded

/-! ### Stores -/

namespace Memory

/-- All counters of all players are in the range of counters. -/
def Small (store : Memory) : Prop := ∀ record ∈ store.players.values, record.Small

instance : DecidablePred Small := fun store =>
  inferInstanceAs (Decidable (∀ record ∈ store.players.values, record.Small))

/-- All records are in range, and none counts more rounds than given. -/
def Bounded (rounds : Nat) (store : Memory) : Prop :=
  ∀ username record, store.loadPlayer username = some record → record.Bounded rounds

namespace Bounded

variable {rounds : Nat} {store next : Memory}

theorem recordOrInitial (bounded : store.Bounded rounds) (username : String) :
    (store.recordOrInitial username).Bounded rounds := by
  rw [Memory.recordOrInitial]
  cases found : store.loadPlayer username with
  | none => exact .initial rounds username
  | some record => exact bounded username record found

/-- A record that is written under a name. -/
theorem of_insert (bounded : store.Bounded rounds) {name : String} {value : PlayerRecord}
    (written : next.players = store.players.insert name value)
    (within : value.Bounded (rounds + 1)) : next.Bounded (rounds + 1) := by
  intro username record found
  rw [loadPlayer, written, Table.get?_insert] at found
  split at found
  · exact Option.some.inj found ▸ within
  · exact (bounded username record found).mono (Nat.le_succ _)

theorem of_players (bounded : store.Bounded rounds) (same : next.players = store.players) :
    next.Bounded (rounds + 1) := by
  intro username record found
  rw [loadPlayer, same] at found
  exact (bounded username record found).mono (Nat.le_succ _)

/-- **An operation counts at most one round.** -/
theorem perform (bounded : store.Bounded rounds) {operation : Operation} (brings : operation.Small)
    (wall : Timestamp) : (store.perform wall operation).2.Bounded (rounds + 1) := by
  cases operation with
  | registerUser user =>
    change (store.registerUser user).2.Bounded (rounds + 1)
    cases found : store.findUser user.username with
    | some stored =>
      rw [store.registerUser_taken found]
      exact bounded.of_players rfl
    | none =>
      rw [store.registerUser_free found]
      exact bounded.of_insert rfl (.initial _ _)
  | updateRanking stats =>
    have before := bounded.recordOrInitial stats.username
    exact bounded.of_insert rfl ⟨brings, Nat.le_succ_of_le before.games, before.best⟩
  | savePlayer stats =>
    have before := bounded.recordOrInitial stats.username
    exact bounded.of_insert rfl ⟨brings, Nat.succ_le_succ before.games, before.best⟩
  | saveResult result =>
    change (store.saveResult result).Bounded (rounds + 1)
    cases found : store.loadPlayer result.username with
    | none => exact bounded.of_players (by rw [saveResult, Table.modify, ← loadPlayer, found])
    | some record =>
      have before := bounded result.username record found
      refine bounded.of_insert (Table.modify_of_get? found _)
        ⟨before.stats, Nat.le_succ_of_le before.games, ?_⟩
      exact Nat.max_le.mpr ⟨before.best, brings _ List.mem_cons_self⟩
  | recordLogin _ | findUser _ | loadPlayer _ | topPlayers _ | rank _ | totalPlayers =>
    exact bounded.of_players rfl

theorem small (bounded : store.Bounded rounds) (few : rounds ≤ counterLimit) : store.Small := by
  intro record member
  obtain ⟨⟨username, _⟩, row, rfl⟩ := List.mem_map.mp member
  exact (bounded username _ ((store.players.get?_eq_some_iff _ _).mpr row)).small few

end Bounded

/-- **No counter leaves its range** where the operations bring numbers in range, and are not more
than a counter can count. -/
theorem small_after {asked : List (Timestamp × Operation)}
    (brings : ∀ step ∈ asked, step.2.Small) (few : asked.length ≤ counterLimit) :
    (after asked).Small := by
  suffices bounded : (after asked).Bounded asked.length from bounded.small few
  clear few
  induction asked using List.reverseRecOn with
  | nil => exact fun _ _ impossible => by cases impossible
  | append_singleton asked step ih =>
    rw [after_concat, List.length_append, List.length_singleton]
    refine (ih fun earlier member => brings earlier (List.mem_append_left _ member)).perform ?_ _
    exact brings step (List.mem_append_right _ List.mem_cons_self)

end Memory
end TimedQuiz.Store
