/-
**What the store in memory keeps of the players.**

A player's record can come from three sides: from a registration, from counters that are replaced
in the course of a round, and from counters that are saved at its end. The last two need no user.

* `Memory.Retains`: every record is still there, the rounds played and the best score have not gone
  down, and counters have changed only where they were set.
* `Memory.retains_perform_iff`: an operation loses nothing, unless it registers a free name whose
  record has something to lose. A registration lays down a new record over it.
* `Memory.lays_after`: in a state that operations reach, a free name has a record exactly if
  counters were set under it.
* `Memory.retains_after_iff`: so an operation on such a state loses something exactly if it is the
  first registration of a name under which counters were set before; `progress_lost` is a case.
  Counts of 32 bits do not wrap around meanwhile, unless the operations bring larger ones or are
  too many to be counted.
* `Memory.retains_of_orderly`: where every name is registered before counters are set under it,
  nothing is lost in a whole sequence.
-/

import Mathlib.Data.List.Induction
import TimedQuiz.Proofs.Operation
import TimedQuiz.Proofs.Store.Range

namespace TimedQuiz.Store

/-- The name under which an operation sets the counters. -/
def Operation.sets? : Operation → Option String
  | updateRanking stats => some stats.username
  | savePlayer stats => some stats.username
  | _ => none

/-- What a later record of a player keeps of an earlier one, whose counters may have been set in
between. -/
structure PlayerRecord.Retains (earlier later : PlayerRecord) (set : Prop) : Prop where
  games : earlier.gamesPlayed ≤ later.gamesPlayed
  best : earlier.bestScore ≤ later.bestScore
  counters : ¬ set → later.stats = earlier.stats

/-- There is nothing in a record that could be lost. -/
structure PlayerRecord.Blank (record : PlayerRecord) (username : String) : Prop where
  games : record.gamesPlayed = 0
  best : record.bestScore = 0
  counters : record.stats = .fresh username

/-- Only a blank record can be laid down anew. -/
theorem PlayerRecord.retains_initial_iff {record : PlayerRecord} {username : String} {set : Prop}
    (unset : ¬ set) : record.Retains (.initial username) set ↔ record.Blank username := by
  constructor
  · intro retained
    exact ⟨Nat.le_zero.mp retained.games, Nat.le_zero.mp retained.best,
      (retained.counters unset).symm⟩
  · intro blank
    exact ⟨Nat.le_of_eq blank.games, Nat.le_of_eq blank.best, fun _ => blank.counters.symm⟩

namespace Memory

/-- What is kept of the players while some operations are carried out. -/
def Retains (store : Memory) (operations : List Operation) (next : Memory) : Prop :=
  ∀ username record, store.loadPlayer username = some record →
    ∃ later, next.loadPlayer username = some later ∧
      record.Retains later (username ∈ operations.filterMap Operation.sets?)

/-! ### One operation -/

variable {store next : Memory} {operations : List Operation}

/-- What leaves the players alone loses nothing. -/
theorem Retains.of_players (same : next.players = store.players) :
    store.Retains operations next := by
  intro username record found
  refine ⟨record, ?_, Nat.le_refl _, Nat.le_refl _, fun _ => rfl⟩
  rw [loadPlayer, same]
  exact found

/-- A name that one operation gives. -/
theorem mem_filterMap_single {name? : Operation → Option String} {operation : Operation}
    {username : String} :
    username ∈ [operation].filterMap name? ↔ name? operation = some username := by
  simp only [List.mem_filterMap, List.mem_singleton, exists_eq_left]

/-- A record that is written in place of the one that was there, if it keeps what was there. -/
theorem Retains.of_insert {operation : Operation} {name : String} {value : PlayerRecord}
    (written : next.players = store.players.insert name value)
    (kept : ∀ record, store.loadPlayer name = some record →
      record.Retains value (operation.sets? = some name)) : store.Retains [operation] next := by
  intro username record found
  rw [mem_filterMap_single, loadPlayer, written, Table.get?_insert]
  split
  · rename_i same
    subst same
    exact ⟨value, rfl, kept record found⟩
  · exact ⟨record, found, Nat.le_refl _, Nat.le_refl _, fun _ => rfl⟩

theorem recordOrInitial_of_loadPlayer {username : String} {record : PlayerRecord}
    (found : store.loadPlayer username = some record) :
    store.recordOrInitial username = record := by
  rw [recordOrInitial, found, Option.getD_some]

theorem retains_updateRanking (stats : Player) :
    store.Retains [.updateRanking stats] (store.updateRanking stats) := by
  refine .of_insert rfl fun record found => ?_
  rw [recordOrInitial_of_loadPlayer found]
  exact ⟨Nat.le_refl _, Nat.le_refl _, fun unset => absurd rfl unset⟩

theorem retains_savePlayer (stats : Player) (wall : Timestamp) :
    store.Retains [.savePlayer stats] (store.savePlayer stats wall) := by
  refine .of_insert rfl fun record found => ?_
  rw [recordOrInitial_of_loadPlayer found]
  exact ⟨Nat.le_succ _, Nat.le_refl _, fun unset => absurd rfl unset⟩

theorem retains_saveResult (result : RoundResult) :
    store.Retains [.saveResult result] (store.saveResult result) := by
  cases found : store.loadPlayer result.username with
  | none => exact .of_players (by rw [saveResult, Table.modify, ← loadPlayer, found])
  | some old =>
    refine .of_insert (Table.modify_of_get? found _) fun record same => ?_
    rw [found, Option.some.injEq] at same
    subst same
    exact ⟨Nat.le_refl _, Nat.le_max_left _ _, fun _ => rfl⟩

/-- **A registration loses nothing exactly if the name is taken or its record is blank.** -/
theorem retains_registerUser_iff (user : UserRecord) :
    store.Retains [.registerUser user] (store.registerUser user).2 ↔
      (store.findUser user.username = none →
        ∀ record, store.loadPlayer user.username = some record → record.Blank user.username) := by
  cases free : store.findUser user.username with
  | some stored =>
    rw [store.registerUser_taken free]
    exact iff_of_true (.of_players rfl) fun impossible => by cases impossible
  | none =>
    have unset : ¬ user.username ∈ [Operation.registerUser user].filterMap Operation.sets? :=
      List.not_mem_nil
    constructor
    · intro retained _ record found
      obtain ⟨later, laid, kept⟩ := retained user.username record found
      rw [store.loadPlayer_registerUser user.username free, if_pos rfl, Option.some.injEq] at laid
      rw [← laid] at kept
      exact (PlayerRecord.retains_initial_iff unset).mp kept
    · intro blank
      rw [store.registerUser_free free]
      refine .of_insert rfl fun record found => ?_
      exact (PlayerRecord.retains_initial_iff (by rintro ⟨⟩)).mpr (blank rfl record found)

/-- **An operation loses nothing, unless it registers a free name whose record has something to
lose.** -/
theorem retains_perform_iff (wall : Timestamp) (operation : Operation) :
    store.Retains [operation] (store.perform wall operation).2 ↔
      ∀ user, operation = .registerUser user → store.findUser user.username = none →
        ∀ record, store.loadPlayer user.username = some record → record.Blank user.username := by
  cases operation with
  | registerUser user =>
    refine (retains_registerUser_iff user).trans ⟨fun blank other same => ?_, fun blank => ?_⟩
    · rw [← Operation.registerUser.inj same]
      exact blank
    · exact blank user rfl
  | updateRanking stats => exact iff_of_true (retains_updateRanking stats) (by rintro _ ⟨⟩)
  | savePlayer stats => exact iff_of_true (retains_savePlayer stats wall) (by rintro _ ⟨⟩)
  | saveResult result => exact iff_of_true (retains_saveResult result) (by rintro _ ⟨⟩)
  | recordLogin _ | findUser _ | loadPlayer _ | topPlayers _ | rank _ | totalPlayers =>
    exact iff_of_true (.of_players rfl) (by rintro _ ⟨⟩)

/-! ### Sequences of operations -/

theorem Retains.refl (store : Memory) : store.Retains [] store := .of_players rfl

/-- What is kept twice is kept. -/
theorem Retains.trans {middle : Memory} {later : List Operation}
    (first : store.Retains operations middle) (second : middle.Retains later next) :
    store.Retains (operations ++ later) next := by
  intro username record found
  obtain ⟨between, there, kept⟩ := first username record found
  obtain ⟨last, present, held⟩ := second username between there
  refine ⟨last, present, Nat.le_trans kept.games held.games, Nat.le_trans kept.best held.best,
    fun unset => ?_⟩
  rw [List.filterMap_append, List.mem_append, not_or] at unset
  exact (held.counters unset.2).trans (kept.counters unset.1)

/-- The names with a user are those that were registered, and the names with a record are these and
those under which counters were set. -/
structure Lays (before : List Operation) (store : Memory) : Prop where
  users : ∀ username, (store.findUser username).isSome = true ↔
    username ∈ before.filterMap Operation.registered?
  players : ∀ username, (store.loadPlayer username).isSome = true ↔
    username ∈ before.filterMap Operation.registered? ∨
      username ∈ before.filterMap Operation.sets?

namespace Lays

variable {before : List Operation}

theorem empty : Lays [] {} where
  users _ := iff_of_false Bool.false_ne_true List.not_mem_nil
  players _ := iff_of_false Bool.false_ne_true (not_or_intro List.not_mem_nil List.not_mem_nil)

/-- An operation that registers nobody lays down records where it sets the counters. -/
theorem of_unregistered (lays : Lays before store) {operation : Operation}
    (unregistered : operation.registered? = none)
    (users : ∀ username, (next.findUser username).isSome = (store.findUser username).isSome)
    (players : ∀ username, (next.loadPlayer username).isSome = true ↔
      (store.loadPlayer username).isSome = true ∨ operation.sets? = some username) :
    Lays (before ++ [operation]) next := by
  have names : (before ++ [operation]).filterMap Operation.registered? =
      before.filterMap Operation.registered? := by
    rw [List.filterMap_append, List.filterMap_cons_none unregistered, List.filterMap_nil,
      List.append_nil]
  refine ⟨fun username => ?_, fun username => ?_⟩
  · rw [names, users, lays.users]
  · rw [names, players, lays.players, List.filterMap_append, List.mem_append, mem_filterMap_single,
      or_assoc]

/-- Counters that are set are found under their name. -/
theorem of_insert (lays : Lays before store) {operation : Operation} {name : String}
    {value : PlayerRecord} (unregistered : operation.registered? = none)
    (sets : operation.sets? = some name) (users : next.users = store.users)
    (written : next.players = store.players.insert name value) :
    Lays (before ++ [operation]) next := by
  refine lays.of_unregistered unregistered (fun username => ?_) fun username => ?_
  · rw [findUser, findUser, users]
  · rw [loadPlayer, written, Table.get?_insert, sets, Option.some.injEq]
    split
    · rename_i same
      exact iff_of_true rfl (Or.inr same.symm)
    · rename_i other
      rw [or_iff_left (Ne.symm other)]
      rfl

/-- What leaves users and records where they are. -/
theorem of_same (lays : Lays before store) {operation : Operation}
    (unregistered : operation.registered? = none) (unset : operation.sets? = none)
    (users : ∀ username, (next.findUser username).isSome = (store.findUser username).isSome)
    (players : ∀ username,
      (next.loadPlayer username).isSome = (store.loadPlayer username).isSome) :
    Lays (before ++ [operation]) next := by
  refine lays.of_unregistered unregistered users fun username => ?_
  rw [players, unset]
  exact (or_iff_left fun impossible => by cases impossible).symm

theorem registerUser (lays : Lays before store) (user : UserRecord) :
    Lays (before ++ [.registerUser user]) (store.registerUser user).2 := by
  have registered (username : String) :
      username ∈ (before ++ [Operation.registerUser user]).filterMap Operation.registered? ↔
        username ∈ before.filterMap Operation.registered? ∨ username = user.username := by
    rw [List.filterMap_append, List.mem_append, mem_filterMap_single, Operation.registered?,
      Option.some.injEq, eq_comm]
  have sets : (before ++ [Operation.registerUser user]).filterMap Operation.sets? =
      before.filterMap Operation.sets? := by
    rw [List.filterMap_append]
    exact List.append_nil _
  cases found : store.findUser user.username with
  | none =>
    refine ⟨fun username => ?_, fun username => ?_⟩
    · rw [registered, store.findUser_registerUser username found, ← lays.users]
      split
      · rename_i same
        exact iff_of_true rfl (Or.inr same)
      · rename_i other
        exact (or_iff_left other).symm
    · rw [registered, sets, store.loadPlayer_registerUser username found]
      split
      · rename_i same
        exact iff_of_true rfl (Or.inl (Or.inr same))
      · rename_i other
        rw [or_iff_left other]
        exact lays.players username
  | some stored =>
    -- A name that is taken has been registered before.
    have earlier : user.username ∈ before.filterMap Operation.registered? :=
      (lays.users _).mp (by rw [found]; rfl)
    have same (username : String) :
        username ∈ (before ++ [Operation.registerUser user]).filterMap Operation.registered? ↔
          username ∈ before.filterMap Operation.registered? :=
      (registered username).trans (or_iff_left_of_imp fun own => own ▸ earlier)
    rw [store.registerUser_taken found]
    refine ⟨fun username => ?_, fun username => ?_⟩
    · rw [same]
      exact lays.users username
    · rw [same, sets]
      exact lays.players username

/-- **Every operation keeps the account of the names.** -/
theorem perform (lays : Lays before store) (wall : Timestamp) (operation : Operation) :
    Lays (before ++ [operation]) (store.perform wall operation).2 := by
  cases operation with
  | registerUser user => exact lays.registerUser user
  | updateRanking stats => exact lays.of_insert rfl rfl rfl rfl
  | savePlayer stats => exact lays.of_insert rfl rfl rfl rfl
  | saveResult result =>
    exact lays.of_same rfl rfl (fun _ => rfl) fun username => Table.isSome_modify ..
  | recordLogin name =>
    exact lays.of_same rfl rfl (fun username => store.isSome_recordLogin username name wall)
      fun _ => rfl
  | findUser _ | loadPlayer _ | topPlayers _ | rank _ | totalPlayers =>
    exact lays.of_same rfl rfl (fun _ => rfl) fun _ => rfl

end Lays

/-- The operations of a sequence, without their times. -/
def operationsOf (asked : List (Timestamp × Operation)) : List Operation := asked.map Prod.snd

theorem operationsOf_concat (asked : List (Timestamp × Operation)) (step : Timestamp × Operation) :
    operationsOf (asked ++ [step]) = operationsOf asked ++ [step.2] := List.map_append

theorem lays_after (asked : List (Timestamp × Operation)) :
    Lays (operationsOf asked) (after asked) := by
  induction asked using List.reverseRecOn with
  | nil => exact .empty
  | append_singleton asked step ih =>
    rw [operationsOf_concat, after_concat]
    exact ih.perform step.1 step.2

/-! ### The main results -/

/-- **An operation loses nothing, unless it registers a name for the first time under which counters
were set before.** In every state that operations reach and for every further one: no record
disappears, no number of rounds and no best score goes down, and counters change only where they
are set, exactly if the operation is not the first registration of a name that has a record with
something in it. All counts that are compared are in the range of counters, if the operations
bring such and are not more than a counter can count. -/
theorem retains_after_iff (asked : List (Timestamp × Operation)) (wall : Timestamp)
    (operation : Operation) :
    ((after asked).Retains [operation] (after (asked ++ [(wall, operation)])) ↔
      ∀ user, operation = .registerUser user →
        user.username ∉ (operationsOf asked).filterMap Operation.registered? →
          ∀ record, (after asked).loadPlayer user.username = some record →
            record.Blank user.username) ∧
      ((∀ step ∈ asked ++ [(wall, operation)], step.2.Small) →
        (asked ++ [(wall, operation)]).length ≤ counterLimit →
          (after asked).Small ∧ (after (asked ++ [(wall, operation)])).Small) := by
  constructor
  · rw [after_concat, retains_perform_iff]
    refine forall_congr' fun user => forall_congr' fun _ => ?_
    rw [← (lays_after asked).users, Bool.not_eq_true, Option.isSome_eq_false_iff,
      Option.isNone_iff_eq_none]
  · intro brings few
    have fewer : asked.length ≤ (asked ++ [(wall, operation)]).length := by
      rw [List.length_append]
      exact Nat.le_add_right _ _
    exact ⟨small_after (fun step member => brings step (List.mem_append_left _ member))
      (Nat.le_trans fewer few), small_after brings few⟩

/-- Counters are saved for a player nobody has registered. -/
def savedUnregistered : List (Timestamp × Operation) :=
  [({ nanos := 0 },
    .savePlayer { username := "bob", totalScore := 1, correctAnswers := 1, totalAttempts := 1 })]

/-- The registration that follows takes the finished round and its counters away. -/
theorem progress_lost :
    let bob : UserRecord := { username := "bob", passwordHash := "", createdAt := { nanos := 0 } }
    let registration : Timestamp × Operation := ({ nanos := 0 }, .registerUser bob)
    ¬ (after savedUnregistered).Retains [registration.2]
      (after (savedUnregistered ++ [registration])) := by
  intro bob registration retained
  obtain ⟨later, found, kept⟩ := retained "bob" _ rfl
  have laid : later = .initial "bob" := (Option.some.inj found).symm
  have games : 1 ≤ later.gamesPlayed := kept.games
  rw [laid] at games
  exact Nat.not_succ_le_zero 0 games

/-- A registration comes before the counters are set under its name, or the name is taken. -/
def Orderly (before : List Operation) (operation : Operation) : Prop :=
  ∀ username, operation.registered? = some username →
    username ∈ before.filterMap Operation.registered? ∨
      username ∉ before.filterMap Operation.sets?

/-- **Nothing is lost where names are registered before counters are set under them.** -/
theorem retains_of_orderly (earlier later : List (Timestamp × Operation))
    (orderly : EachAfter Orderly (operationsOf (earlier ++ later))) :
    (after earlier).Retains (operationsOf later) (after (earlier ++ later)) := by
  induction later using List.reverseRecOn with
  | nil =>
    rw [List.append_nil]
    exact .refl _
  | append_singleton later step ih =>
    rw [← List.append_assoc, operationsOf_concat] at orderly
    rw [← List.append_assoc, operationsOf_concat, after_concat]
    refine (ih orderly.init).trans ((retains_perform_iff step.1 step.2).mpr ?_)
    intro user registration free record found
    have lays := lays_after (earlier ++ later)
    have unregistered : user.username ∉
        (operationsOf (earlier ++ later)).filterMap Operation.registered? := by
      rw [← lays.users, free]
      exact Bool.false_ne_true
    have present := (lays.players user.username).mp (by rw [found]; rfl)
    have set := present.resolve_left unregistered
    have named : step.2.registered? = some user.username := by rw [registration]; rfl
    rcases orderly.last user.username named with taken | unset
    · exact absurd taken unregistered
    · exact absurd set unset

end Memory
end TimedQuiz.Store
