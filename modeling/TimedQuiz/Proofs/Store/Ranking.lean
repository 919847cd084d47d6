/-
**The order of players, and the best of them.**

The leaderboard goes by score and then by accuracy, and a rank counts the players with a higher
score without looking at accuracies.

* `leaderboardOrder` compares any two players, and transitively.
* `Memory.Named`: every record stands under the name of its player, so a list of records without
  repetition is a list of players without repetition.
* `Memory.Named.best_topPlayers`: what can be relied on for the first players of the leaderboard.
* `Memory.Named.exists_higher`: the players a rank counts.
-/

import Mathlib.Data.List.Induction
import TimedQuiz.Proofs.Operation

namespace TimedQuiz.Store

/-! ### The order -/

/-- **The order of the leaderboard is a total preorder.** -/
instance transCmp_leaderboardOrder : Std.TransCmp leaderboardOrder :=
  inferInstanceAs (Std.TransCmp fun a b : PlayerRecord =>
    compareLex (compareOn fun record => record.stats.totalScore)
      (compareOn fun record => totalOrderKey record.accuracy) b a)

theorem ranksBefore_trans (a b c : PlayerRecord) (first : ranksBefore a b = true)
    (second : ranksBefore b c = true) : ranksBefore a c = true :=
  Std.TransCmp.isLE_trans first second

theorem ranksBefore_iff_ne_lt (a b : PlayerRecord) :
    ranksBefore a b = true ↔ leaderboardOrder b a ≠ .lt := by
  have swapped : leaderboardOrder a b = (leaderboardOrder b a).swap := Std.OrientedCmp.eq_swap
  rw [ranksBefore, swapped]
  cases leaderboardOrder b a <;> decide

theorem ranksBefore_total (a b : PlayerRecord) : (ranksBefore a b || ranksBefore b a) = true := by
  rw [Bool.or_eq_true, ranksBefore_iff_ne_lt, ranksBefore]
  cases leaderboardOrder b a <;> decide

/-- Who comes first does not have the lower score. -/
theorem score_le_of_ranksBefore {a b : PlayerRecord} (before : ranksBefore a b = true) :
    b.stats.totalScore ≤ a.stats.totalScore := by
  by_contra lower
  rw [ranksBefore, leaderboardOrder, Nat.compare_eq_gt.mpr (Nat.lt_of_not_le lower)] at before
  exact Bool.false_ne_true before

namespace Memory

variable {store next : Memory}

/-! ### Records under their names -/

/-- Every record stands under the name of its player. -/
def Named (store : Memory) : Prop :=
  ∀ username record, store.loadPlayer username = some record → record.stats.username = username

namespace Named

theorem empty : Named {} := by rintro username record ⟨⟩

theorem of_players (named : store.Named) (same : next.players = store.players) : next.Named := by
  intro username record found
  rw [loadPlayer, same] at found
  exact named username record found

theorem of_insert (named : store.Named) {name : String} {value : PlayerRecord}
    (written : next.players = store.players.insert name value)
    (own : value.stats.username = name) : next.Named := by
  intro username record found
  rw [loadPlayer, written, Table.get?_insert] at found
  split at found
  · rename_i same
    rw [same, ← own, Option.some.inj found]
  · exact named username record found

theorem registerUser (named : store.Named) (user : UserRecord) :
    (store.registerUser user).2.Named := by
  cases found : store.findUser user.username with
  | some stored =>
    rw [store.registerUser_taken found]
    exact named
  | none =>
    rw [store.registerUser_free found]
    exact named.of_insert rfl rfl

theorem saveResult (named : store.Named) (result : RoundResult) :
    (store.saveResult result).Named := by
  cases found : store.loadPlayer result.username with
  | none => exact named.of_players (by rw [Memory.saveResult, Table.modify, ← loadPlayer, found])
  | some old =>
    exact named.of_insert (Table.modify_of_get? found _) (named result.username old found)

theorem perform (named : store.Named) (wall : Timestamp) (operation : Operation) :
    (store.perform wall operation).2.Named := by
  cases operation with
  | registerUser user => exact named.registerUser user
  | updateRanking stats => exact named.of_insert rfl rfl
  | savePlayer stats => exact named.of_insert rfl rfl
  | saveResult result => exact named.saveResult result
  | recordLogin _ | findUser _ | loadPlayer _ | topPlayers _ | rank _ | totalPlayers =>
    exact named.of_players rfl

end Named

theorem named_after (asked : List (Timestamp × Operation)) : (after asked).Named := by
  induction asked using List.reverseRecOn with
  | nil => exact .empty
  | append_singleton asked step ih =>
    rw [after_concat]
    exact ih.perform step.1 step.2

/-- The order in which the players are gone through does not matter. -/
theorem Named.of_perm (named : store.Named) (same : next.players.rows.Perm store.players.rows) :
    next.Named := by
  intro username record found
  rw [loadPlayer, Table.get?_of_perm same] at found
  exact named username record found

/-! ### The first players -/

/-- The best players of a store, at most `limit` of them: they come in the order of the leaderboard,
nobody is listed twice, and whoever is left out does not come before anyone listed. -/
structure Best (store : Memory) (limit : Nat) (records : List PlayerRecord) : Prop where
  length : records.length = min limit store.totalPlayers
  stored : ∀ record ∈ records, store.loadPlayer record.stats.username = some record
  distinct : (records.map fun record => record.stats.username).Nodup
  ordered : records.Pairwise fun a b => ranksBefore a b = true
  omitted : ∀ username record, store.loadPlayer username = some record → record ∉ records →
    ∀ listed ∈ records, leaderboardOrder record listed ≠ .lt
  full : store.totalPlayers ≤ limit →
    ∀ username record, store.loadPlayer username = some record → record ∈ records

/-- The players of a store in the order of the leaderboard. -/
def ranking (store : Memory) : List PlayerRecord := store.players.values.mergeSort ranksBefore

theorem topPlayers_eq_take (store : Memory) (limit : Nat) :
    store.topPlayers limit = store.ranking.take limit := rfl

theorem ranking_perm (store : Memory) : store.ranking.Perm store.players.values :=
  List.mergeSort_perm ..

theorem pairwise_ranking (store : Memory) :
    store.ranking.Pairwise fun a b => ranksBefore a b = true :=
  List.pairwise_mergeSort ranksBefore_trans ranksBefore_total _

theorem length_ranking (store : Memory) : store.ranking.length = store.totalPlayers := by
  rw [store.ranking_perm.length_eq, Table.values, List.length_map, totalPlayers, Table.size]

theorem mem_ranking {username : String} {record : PlayerRecord}
    (found : store.loadPlayer username = some record) : record ∈ store.ranking :=
  store.ranking_perm.mem_iff.mpr (Table.mem_values found)

/-- The whole ranking, as far as it is asked for. -/
theorem topPlayers_of_le {limit : Nat} (enough : store.totalPlayers ≤ limit) :
    store.topPlayers limit = store.ranking := by
  rw [topPlayers_eq_take, List.take_of_length_le]
  rwa [length_ranking]

namespace Named

variable (named : store.Named)
include named

theorem mem_values_iff (record : PlayerRecord) :
    record ∈ store.players.values ↔
      store.loadPlayer record.stats.username = some record := by
  refine ⟨fun member => ?_, Table.mem_values⟩
  obtain ⟨⟨username, _⟩, row, rfl⟩ := List.mem_map.mp member
  have found := (store.players.get?_eq_some_iff _ _).mpr row
  rw [named username _ found]
  exact found

theorem nodup_names : (store.players.values.map fun record => record.stats.username).Nodup := by
  have same : (store.players.values.map fun record => record.stats.username) =
      store.players.rows.map Prod.fst := by
    rw [Table.values, List.map_map]
    refine List.map_congr_left fun row member => ?_
    exact named row.1 row.2 ((store.players.get?_eq_some_iff _ _).mpr member)
  rw [same]
  exact store.players.distinct

/-- **The first players of the leaderboard are the best ones.** -/
theorem best_topPlayers (limit : Nat) : store.Best limit (store.topPlayers limit) where
  length := by rw [topPlayers_eq_take, List.length_take, length_ranking]
  stored record member :=
    (named.mem_values_iff record).mp (store.ranking_perm.mem_iff.mp (List.mem_of_mem_take member))
  distinct := by
    refine List.Nodup.sublist ((List.take_sublist limit store.ranking).map _) ?_
    exact (store.ranking_perm.map _).nodup_iff.mpr named.nodup_names
  ordered := store.pairwise_ranking.sublist (List.take_sublist limit _)
  omitted username record found out listed inside := by
    have split : record ∈ store.ranking.take limit ++ store.ranking.drop limit := by
      rw [List.take_append_drop]
      exact mem_ranking found
    have later : record ∈ store.ranking.drop limit := (List.mem_append.mp split).resolve_left out
    have sorted := store.pairwise_ranking
    rw [← List.take_append_drop limit store.ranking, List.pairwise_append] at sorted
    exact (ranksBefore_iff_ne_lt listed record).mp (sorted.2.2 listed inside record later)
  full enough username record found := by
    rw [topPlayers_of_le enough]
    exact mem_ranking found

/-! ### Ranks -/

/-- The players with a higher score than a given one. -/
theorem exists_higher (score : Nat) :
    ∃ names : List String, names.Nodup ∧
      (∀ name, name ∈ names ↔
        ∃ other, store.loadPlayer name = some other ∧ score < other.stats.totalScore) ∧
      (store.players.values.countP fun other => decide (score < other.stats.totalScore)) =
        names.length := by
  refine ⟨(store.players.values.filter fun other => decide (score < other.stats.totalScore)).map
    fun other => other.stats.username, ?_, fun name => ?_, ?_⟩
  · exact named.nodup_names.sublist (List.filter_sublist.map _)
  · simp only [List.mem_map, List.mem_filter, decide_eq_true_eq]
    constructor
    · rintro ⟨other, ⟨member, higher⟩, rfl⟩
      exact ⟨other, (named.mem_values_iff other).mp member, higher⟩
    · rintro ⟨other, found, higher⟩
      exact ⟨other, ⟨Table.mem_values found, higher⟩, named name other found⟩
  · rw [List.length_map, List.countP_eq_length_filter]

end Named

/-- A rank is one more than the number of players ahead in the ranking with a higher score. -/
theorem rank_of_loadPlayer {username : String} {record : PlayerRecord}
    (found : store.loadPlayer username = some record) :
    store.rank username = some (1 + store.ranking.countP fun other =>
      decide (record.stats.totalScore < other.stats.totalScore)) := by
  rw [rank, found, Option.map_some, store.ranking_perm.countP_eq]

end Memory

/-! ### Along falling scores -/

section Falling

variable {records : List PlayerRecord}

/-- Scores never rise along a ranking. -/
theorem falling_of_pairwise (ordered : records.Pairwise fun a b => ranksBefore a b = true) :
    records.Pairwise fun a b => b.stats.totalScore ≤ a.stats.totalScore :=
  ordered.imp score_le_of_ranksBefore

/-- Nobody after a player has a higher score. -/
theorem countP_higher_eq_zero {score : Nat}
    (bounded : ∀ record ∈ records, record.stats.totalScore ≤ score) :
    (records.countP fun other => decide (score < other.stats.totalScore)) = 0 := by
  rw [List.countP_eq_zero]
  intro record member
  rw [decide_eq_true_eq]
  exact Nat.not_lt.mpr (bounded record member)

/-- The players with a higher score all stand before a player. -/
theorem countP_higher_le
    (falling : records.Pairwise fun a b => b.stats.totalScore ≤ a.stats.totalScore)
    {index : Nat} {record : PlayerRecord} (place : records[index]? = some record) :
    (records.countP fun other => decide (record.stats.totalScore < other.stats.totalScore)) ≤
      index := by
  induction records generalizing index with
  | nil => cases place
  | cons first rest ih =>
    obtain ⟨below, falling⟩ := List.pairwise_cons.mp falling
    rw [List.countP_cons]
    cases index with
    | zero =>
      obtain rfl : first = record := Option.some.inj place
      rw [countP_higher_eq_zero below, decide_eq_false (Nat.lt_irrefl _)]
      exact Nat.le_refl 0
    | succ index =>
      have earlier := ih falling place
      split <;> omega

/-- **The first player with a score comes right after those with a higher one.** -/
theorem find?_zipIdx_score
    (falling : records.Pairwise fun a b => b.stats.totalScore ≤ a.stats.totalScore)
    {record : PlayerRecord} (member : record ∈ records) (start : Nat) :
    ∃ first, ((records.zipIdx start).find? fun entry =>
        decide (entry.1.stats.totalScore = record.stats.totalScore)) =
      some (first, start + records.countP fun other =>
        decide (record.stats.totalScore < other.stats.totalScore)) := by
  induction records generalizing start with
  | nil => cases member
  | cons head rest ih =>
    obtain ⟨below, falling⟩ := List.pairwise_cons.mp falling
    rw [List.zipIdx_cons, List.find?_cons, List.countP_cons]
    by_cases own : head.stats.totalScore = record.stats.totalScore
    · refine ⟨head, ?_⟩
      rw [own] at below
      rw [decide_eq_true own, countP_higher_eq_zero below, own,
        decide_eq_false (Nat.lt_irrefl _)]
      rfl
    · -- The player is among the others, so the first of all has a higher score.
      have inside : record ∈ rest :=
        (List.mem_cons.mp member).resolve_left fun same => own (same ▸ rfl)
      have higher : record.stats.totalScore < head.stats.totalScore :=
        Nat.lt_of_le_of_ne (below record inside) (Ne.symm own)
      obtain ⟨first, found⟩ := ih falling inside (start + 1)
      refine ⟨first, ?_⟩
      rw [decide_eq_false own, decide_eq_true higher, if_pos rfl]
      refine found.trans ?_
      rw [Nat.add_assoc, Nat.add_comm 1]

end Falling

end TimedQuiz.Store
