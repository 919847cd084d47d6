/-
**What is found in the store after a write.**

* `Table.get?_insert`, `Table.get?_modify`: a write is found under its own key, and everything else
  as before.
* `Table.size_eq_length`: a table has one row for each key.
* `Memory.recordOrInitial_roundFinished`: the two writes at the end of a round, taken together. The
  second finds the record that the first has laid down, so no player is missed.
* `Memory.resultCount_saveResult`: a result with a fresh identity counts for its player.
-/

import Mathlib.Data.List.Count
import TimedQuiz.Store.Memory

namespace TimedQuiz.Store

/-! ### Tables -/

namespace Table

variable {κ α : Type} [DecidableEq κ]

theorem lookup_cons_eq (key other : κ) (value : α) (rows : List (κ × α)) :
    ((key, value) :: rows).lookup other =
      if other = key then some value else rows.lookup other := by
  rw [List.lookup_cons]
  by_cases same : other = key
  · rw [if_pos same, same, beq_self_eq_true]
  · rw [if_neg same, beq_false_of_ne same]

theorem lookup_replaceRows (rows : List (κ × α)) (key other : κ) (value : α) :
    (replaceRows rows key value).lookup other =
      if other = key then (rows.lookup key).map fun _ => value else rows.lookup other := by
  induction rows with
  | nil => simp [replaceRows]
  | cons row rest ih =>
    obtain ⟨found, old⟩ := row
    rw [replaceRows] at ih ⊢
    rw [List.map_cons, lookup_cons_eq, lookup_cons_eq]
    by_cases same : found = key
    · rw [if_pos same, lookup_cons_eq, ih, same, if_pos rfl]
      split <;> rfl
    · rw [if_neg same, lookup_cons_eq, ih, if_neg (Ne.symm same)]
      split
      · rename_i asked
        rw [asked, if_neg same]
      · rfl

/-- Without a row under the key nothing is replaced. -/
theorem replaceRows_of_absent {rows : List (κ × α)} {key : κ} (absent : key ∉ rows.map Prod.fst)
    (value : α) : replaceRows rows key value = rows := by
  have same : ∀ row ∈ rows, (if row.1 = key then (key, value) else row) = row := by
    intro row member
    refine if_neg ?_
    rintro rfl
    exact absent (List.mem_map_of_mem member)
  rw [replaceRows, List.map_congr_left same, List.map_id']

/-- A key without a row has nothing under it. -/
theorem get?_eq_none_iff (table : Table κ α) (key : κ) :
    table.get? key = none ↔ key ∉ table.rows.map Prod.fst := by
  rw [get?, List.lookup_eq_none_iff]
  constructor
  · intro absent member
    obtain ⟨row, inside, rfl⟩ := List.mem_map.mp member
    simpa using absent row inside
  · intro absent row inside
    rw [bne_iff_ne]
    rintro rfl
    exact absent (List.mem_map_of_mem inside)

/-- **A row is found once it is written, and the others as before.** -/
theorem get?_insert (table : Table κ α) (key other : κ) (value : α) :
    (table.insert key value).get? other = if other = key then some value else table.get? other := by
  rw [insert]
  split
  · rename_i known
    have present : (table.get? key).isSome = true := by
      rw [Option.isSome_iff_ne_none, Ne, get?_eq_none_iff]
      exact not_not_intro known
    obtain ⟨old, found⟩ := Option.isSome_iff_exists.mp present
    rw [get?] at found
    rw [get?, lookup_replaceRows, found, Option.map_some, get?]
  · rename_i unknown
    rw [← get?_eq_none_iff, get?] at unknown
    rw [get?, List.lookup_append, lookup_cons_eq]
    split
    · rename_i same
      rw [same, unknown, Option.none_or]
    · rw [List.lookup_nil, Option.or_none, get?]

/-- Changing a row that is there is writing it anew. -/
theorem modify_of_get? {table : Table κ α} {key : κ} {value : α}
    (found : table.get? key = some value) (change : α → α) :
    table.modify key change = table.insert key (change value) := by
  rw [modify, found]

theorem get?_modify (table : Table κ α) (key other : κ) (change : α → α) :
    (table.modify key change).get? other =
      if other = key then (table.get? key).map change else table.get? other := by
  rw [modify]
  split
  · rename_i value found
    rw [get?_insert, found, Option.map_some]
  · rename_i absent
    rw [absent, Option.map_none]
    split
    · rename_i same
      rw [same, absent]
    · rfl

/-- A change takes no row away and adds none. -/
theorem isSome_modify (table : Table κ α) (key other : κ) (change : α → α) :
    ((table.modify key change).get? other).isSome = (table.get? other).isSome := by
  rw [get?_modify]
  split
  · rename_i same
    rw [same, Option.isSome_map]
  · rfl

/-- Writing under a key that is there adds no row. -/
theorem isSome_insert {table : Table κ α} {key : κ} (known : (table.get? key).isSome = true)
    (other : κ) (value : α) :
    ((table.insert key value).get? other).isSome = (table.get? other).isSome := by
  rw [get?_insert]
  split
  · rename_i same
    rw [same, known]
    rfl
  · rfl

/-- A row is found under its key, and nothing else is. -/
theorem get?_eq_some_iff (table : Table κ α) (key : κ) (value : α) :
    table.get? key = some value ↔ (key, value) ∈ table.rows := by
  rw [get?, List.lookup_eq_some_iff]
  constructor
  · rintro ⟨before, after, rows, -⟩
    rw [rows]
    exact List.mem_append_right before List.mem_cons_self
  · intro member
    obtain ⟨before, after, rows⟩ := List.append_of_mem member
    refine ⟨before, after, rows, fun row inside => ?_⟩
    have distinct := table.distinct
    rw [rows, List.map_append, List.map_cons] at distinct
    have apart := (List.nodup_append.mp distinct).2.2 row.1 (List.mem_map_of_mem inside) key
      List.mem_cons_self
    exact bne_iff_ne.mpr apart.symm

/-- What is found does not depend on the order of the rows. -/
theorem get?_of_perm {table other : Table κ α} (same : table.rows.Perm other.rows) (key : κ) :
    table.get? key = other.get? key := by
  refine Option.ext fun value => ?_
  rw [get?_eq_some_iff, get?_eq_some_iff, same.mem_iff]

theorem mem_values {table : Table κ α} {key : κ} {value : α} (found : table.get? key = some value) :
    value ∈ table.values :=
  List.mem_map_of_mem ((table.get?_eq_some_iff key value).mp found)

theorem values_insert_fresh {table : Table κ α} {key : κ} (fresh : table.get? key = none)
    (value : α) : (table.insert key value).values = table.values ++ [value] := by
  rw [get?_eq_none_iff] at fresh
  rw [insert, dif_neg fresh, values, List.map_append, values]
  rfl

end Table

/-! ### The store in memory -/

namespace Memory

variable (store : Memory) (username : String)

theorem isSome_recordLogin (name : String) (wall : Timestamp) :
    ((store.recordLogin name wall).findUser username).isSome =
      (store.findUser username).isSome := Table.isSome_modify ..

/-- A name that is taken stays with its user. -/
theorem registerUser_taken {user stored : UserRecord}
    (taken : store.findUser user.username = some stored) :
    store.registerUser user = (false, store) := by
  rw [findUser] at taken
  rw [registerUser, taken]

section Registered

variable {user : UserRecord} (free : store.findUser user.username = none)
include free

/-- A free name is registered with a user and a record. -/
theorem registerUser_free :
    store.registerUser user =
      (true,
        { store with
          users := store.users.insert user.username user
          players := store.players.insert user.username (.initial user.username) }) := by
  rw [findUser] at free
  rw [registerUser, free]

theorem findUser_registerUser :
    (store.registerUser user).2.findUser username =
      if username = user.username then some user else store.findUser username := by
  rw [store.registerUser_free free, findUser, Table.get?_insert, findUser]

theorem loadPlayer_registerUser :
    (store.registerUser user).2.loadPlayer username =
      if username = user.username then some (.initial user.username)
      else store.loadPlayer username := by
  rw [store.registerUser_free free, loadPlayer, Table.get?_insert, loadPlayer]

theorem recordOrInitial_registerUser :
    (store.registerUser user).2.recordOrInitial username =
      if username = user.username then .initial username else store.recordOrInitial username := by
  rw [recordOrInitial, store.loadPlayer_registerUser username free]
  split
  · rename_i same
    rw [same]
    rfl
  · rfl

end Registered

theorem recordOrInitial_updateRanking (stats : Player) :
    (store.updateRanking stats).recordOrInitial username =
      if username = stats.username then { store.recordOrInitial username with stats }
      else store.recordOrInitial username := by
  rw [recordOrInitial, loadPlayer, updateRanking, Table.get?_insert]
  split
  · rename_i same
    rw [same]
    rfl
  · rfl

/-- What the end of a round makes of the record of its player. -/
def countRound (stats : Player) (score : Nat) (wall : Timestamp) (record : PlayerRecord) :
    PlayerRecord :=
  { stats
    gamesPlayed := record.gamesPlayed + 1
    bestScore := max record.bestScore score
    lastPlayed := some wall }

/-- **The end of a round, with its counters first and its result after them.** -/
theorem recordOrInitial_roundFinished (stats : Player) (wall : Timestamp) (result : RoundResult)
    (own : result.username = stats.username) :
    ((store.savePlayer stats wall).saveResult result).recordOrInitial username =
      if username = stats.username then
        countRound stats result.score wall (store.recordOrInitial username)
      else store.recordOrInitial username := by
  rw [recordOrInitial, loadPlayer, saveResult, Table.get?_modify, savePlayer, own]
  simp only [Table.get?_insert]
  split
  · rename_i same
    rw [same]
    rfl
  · rfl

theorem isSome_updateRanking (stats : Player)
    (known : (store.loadPlayer stats.username).isSome = true) :
    ((store.updateRanking stats).loadPlayer username).isSome =
      (store.loadPlayer username).isSome := Table.isSome_insert known ..

theorem isSome_savePlayer (stats : Player) (wall : Timestamp)
    (known : (store.loadPlayer stats.username).isSome = true) :
    ((store.savePlayer stats wall).loadPlayer username).isSome =
      (store.loadPlayer username).isSome := Table.isSome_insert known ..

theorem isSome_roundFinished (stats : Player) (wall : Timestamp) (result : RoundResult)
    (known : (store.loadPlayer stats.username).isSome = true) :
    (((store.savePlayer stats wall).saveResult result).loadPlayer username).isSome =
      (store.loadPlayer username).isSome := by
  rw [← store.isSome_savePlayer username stats wall known, loadPlayer, saveResult,
    Table.isSome_modify, loadPlayer]

/-- **A result with a fresh identity counts for its player, and for nobody else.** -/
theorem resultCount_saveResult {result : RoundResult}
    (fresh : store.results.get? result.id = none) :
    (store.saveResult result).resultCount username =
      store.resultCount username + (result.username == username).toNat := by
  rw [resultCount, saveResult, Table.values_insert_fresh fresh, List.countP_append,
    List.countP_singleton, resultCount]
  cases result.username == username <;> rfl

end Memory
end TimedQuiz.Store
