/-
**The leaderboard and the ranks agree.**

The leaderboard is a sorted list cut off at a limit; a rank is a count over all players. Both place
a player by score, and only the leaderboard goes on by accuracy.

* `map_record_number`, `map_position_number`: places are given in the order of the list, from one
  on.
* `Placed`: what a rank says of a player, in terms of the other players and of the leaderboard.
* `placement_of_run`: in every state that operations lead to, and in whatever order the players are
  gone through.
-/

import TimedQuiz.Proofs.Service
import TimedQuiz.Proofs.Store.Ranking

namespace TimedQuiz.Leaderboard

open Service Store Memory

/-! ### Places -/

theorem map_record_number (records : List PlayerRecord) :
    (number records).map Entry.record = records := by
  rw [number, List.map_map]
  exact List.zipIdx_map_fst 0 records

theorem length_number (records : List PlayerRecord) :
    (number records).length = records.length := by
  rw [number, List.length_map, List.length_zipIdx]

theorem map_position_number (records : List PlayerRecord) :
    (number records).map Entry.position = List.range' 1 records.length := by
  rw [number, List.map_map, ← List.zipIdx_map_snd 1 records, List.zipIdx_succ, List.map_map]
  rfl

/-- The entry of a player stands where the player stands in the list. -/
theorem getElem?_of_mem_number {records : List PlayerRecord} {entry : Entry}
    (member : entry ∈ number records) :
    ∃ index, entry.position = index + 1 ∧ records[index]? = some entry.record := by
  obtain ⟨⟨record, index⟩, place, rfl⟩ := List.mem_map.mp member
  exact ⟨index, rfl, List.mem_zipIdx_iff_getElem?.mp place⟩

/-! ### Ranks -/

/-- What a rank says of a player: it is one more than the number of players with a higher score, it
is the place of the first player with the same score on the whole leaderboard, and the player does
not stand before it on any leaderboard. -/
structure Placed (store : Memory) (username : String) (record : PlayerRecord) (rank : Nat) :
    Prop where
  behind : ∃ higher : List String, higher.Nodup ∧
    (∀ name, name ∈ higher ↔ ∃ other, store.loadPlayer name = some other ∧
      record.stats.totalScore < other.stats.totalScore) ∧
    rank = 1 + higher.length
  first : ∀ limit, store.totalPlayers ≤ limit → ∃ entry,
    ((number (store.topPlayers limit)).find? fun entry =>
      decide (entry.record.stats.totalScore = record.stats.totalScore)) = some entry ∧
    entry.position = rank
  own : ∀ limit, ∀ entry ∈ number (store.topPlayers limit),
    entry.record.stats.username = username → rank ≤ entry.position

variable {store : Memory} {username : String} {record : PlayerRecord}

/-- The rank of a player counts the players with a higher score, which stand first in the
ranking. -/
theorem placed_of_named (named : store.Named)
    (found : store.loadPlayer username = some record) :
    ∃ rank, store.rank username = some rank ∧ Placed store username record rank := by
  have falling := falling_of_pairwise store.pairwise_ranking
  refine ⟨_, rank_of_loadPlayer found, ?_, fun limit enough => ?_, fun limit entry listed own => ?_⟩
  · obtain ⟨higher, distinct, inside, counted⟩ := named.exists_higher record.stats.totalScore
    refine ⟨higher, distinct, inside, ?_⟩
    rw [store.ranking_perm.countP_eq, counted]
  · obtain ⟨first, place⟩ := find?_zipIdx_score falling (mem_ranking found) 0
    rw [topPlayers_of_le enough, number, List.find?_map]
    refine ⟨_, congrArg (Option.map _) place, ?_⟩
    rw [Nat.zero_add, Nat.add_comm]
  · obtain ⟨index, position, place⟩ := getElem?_of_mem_number listed
    rw [topPlayers_eq_take, List.getElem?_take] at place
    split at place
    · -- The entry shows the player's own record, for a name has one record.
      have shown : entry.record ∈ store.players.values :=
        store.ranking_perm.mem_iff.mp (List.mem_of_getElem? place)
      have same := (named.mem_values_iff entry.record).mp shown
      rw [own, found, Option.some.injEq] at same
      subst same
      rw [position, Nat.add_comm]
      exact Nat.succ_le_succ (countP_higher_le falling place)
    · cases place

/-! ### The main result -/

/-- **Leaderboard and rank agree.** After any operations, and in whatever order the players are gone
through: the order of the leaderboard is a total preorder; the players listed up to a limit are the
best ones, each with the record that is stored; the service numbers them from one on; a player's
rank is told by the players with a higher score and by the leaderboard alike; and a name without a
record has no rank. -/
theorem placement_of_run {asked : List (Timestamp × Operation)} {store : Memory}
    (same : store.players.rows.Perm (after asked).players.rows) :
    Std.TransCmp leaderboardOrder ∧
    (∀ limit, store.Best limit (store.topPlayers limit)) ∧
    (∀ limit, ∃ board, ((top limit).on { memory := store, installed := some {} }).1 = .ok board ∧
      board.entries = number (store.topPlayers limit) ∧
      board.entries.map Entry.record = store.topPlayers limit ∧
      board.entries.map Entry.position = List.range' 1 board.entries.length ∧
      board.totalPlayers = store.totalPlayers) ∧
    (∀ username record, store.loadPlayer username = some record →
      ∃ rank, store.rank username = some rank ∧ Placed store username record rank) ∧
    (∀ username, store.loadPlayer username = none → store.rank username = none) := by
  have named : store.Named := (named_after asked).of_perm same
  refine ⟨inferInstance, named.best_topPlayers, fun limit => ?_, fun username record found => ?_,
    fun username unknown => ?_⟩
  · refine ⟨_, congrArg Prod.fst (top_on rfl limit), rfl, map_record_number _, ?_, rfl⟩
    rw [map_position_number, length_number]
  · exact placed_of_named named found
  · rw [Memory.rank, unknown, Option.map_none]

/-- Three players; the first and the last have the same score. -/
def threePlayers : List (Timestamp × Operation) :=
  [("alice", 4, 8), ("bob", 9, 10), ("carol", 4, 4)].map fun (username, score, attempts) =>
    ({ nanos := 0 }, .updateRanking {
      username, totalScore := score, correctAnswers := score, totalAttempts := attempts })

/-- Gone through backwards, the players with equal scores share the second rank, and neither of them
stands first. -/
theorem placement_of_threePlayers :
    let rows := (after threePlayers).players.rows
    let store : Memory := { players := { rows := rows.reverse, distinct := by decide } }
    store.players.rows.Perm rows ∧ store.rank "alice" = some 2 ∧ store.rank "carol" = some 2 ∧
      (∀ limit, store.Best limit (store.topPlayers limit)) ∧
      ∀ limit, ∀ entry ∈ number (store.topPlayers limit),
        entry.record.stats.username = "alice" → 2 ≤ entry.position := by
  intro rows store
  have same : store.players.rows.Perm rows := List.reverse_perm rows
  obtain ⟨-, best, -, placed, -⟩ := placement_of_run same
  obtain ⟨rank, alice, place⟩ := placed "alice" _ rfl
  have second : store.rank "alice" = some 2 := by decide
  obtain rfl : rank = 2 := Option.some.inj (alice.symm.trans second)
  exact ⟨same, second, by decide, best, place.own⟩

end TimedQuiz.Leaderboard
