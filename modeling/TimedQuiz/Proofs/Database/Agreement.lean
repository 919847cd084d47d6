/-
**Two stores that agree.**

The store in memory and the store in a database are asked the same, one operation after the other.
Their answers are compared, and times only for being set.

* `Keeps`: the documents of a database stand for the tables in memory.
* `agrees_perform`: an operation is answered alike, and the documents still stand for the tables.
* `answers_eq_of_obeys`: so is every sequence of operations, from empty stores on.
-/

import Mathlib.Data.List.Infix
import TimedQuiz.Proofs.Database.Documents
import TimedQuiz.Proofs.Database.Session
import TimedQuiz.Proofs.Operation

namespace TimedQuiz

namespace Store

/-- The answer without the exact times. -/
def Answer.timeless : Answer → Answer
  | .user record => .user (record.map UserRecord.timeless)
  | .player record => .player (record.map PlayerRecord.timeless)
  | .players records => .players (records.map PlayerRecord.timeless)
  | answer => answer

end Store

namespace Database

open Store (Memory Operation Answer UserRecord PlayerRecord RoundResult)

/-! ### Single commands -/

namespace Kind.Rows

variable {α : Type} {kind : Kind α} {table : Store.Table String α} {contents : Contents}
  {collection : Collection} (rows : kind.Rows table (contents collection)) (fault : Fault)
include rows

/-- A look for a name finds the row, as far as it counts. -/
theorem on_readFirst (username : String) {form : Document → Option α}
    (reads : ∀ {record document}, table.get? username = some record →
      kind.Stands (username, record) document →
        (form document).map kind.essence = some (kind.essence record)) :
    ∃ found, (Session.readFirst execute (.find collection username) form fault).on contents =
        (.ok found, contents) ∧
      found.map kind.essence = (table.get? username).map kind.essence := by
  have both := rows.find username
  generalize searched : (contents collection).find? (Filter.key username).admits = document? at both
  generalize table.get? username = record? at both reads
  have reply : execute (.find collection username) contents =
      (.found document?.toList, contents) := by rw [← searched]; rfl
  cases both with
  | none => exact ⟨none, Session.on_readFirst_nil reply, rfl⟩
  | some stands =>
    obtain ⟨found, read, same⟩ := Option.map_eq_some_iff.mp (reads rfl stands)
    exact ⟨some found, Session.on_readFirst_cons reply read, congrArg some same⟩

/-- A change of a document goes with the change of its row. -/
theorem on_write {username : String} {stored next : α} (found : table.get? username = some stored)
    {change : Change} (upsert : Bool) (alters : kind.Alters change username stored next) :
    ∃ changed,
      (Session.write execute (.update collection username change upsert) fault).on contents =
        (.ok (), contents.put collection changed) ∧
      kind.Rows (table.insert username next) changed := by
  obtain ⟨changed, updated, after⟩ := rows.update found upsert alters
  refine ⟨changed, ?_, after⟩
  simp only [Session.write, Session.on_bind, Session.on_send, execute, updated, Reply.isWritten,
    if_true, Session.on_pure]

/-- The document of a new record goes in. -/
theorem on_insertNew_free (record : α) (free : table.get? (kind.username record) = none) :
    (Session.insertNew execute collection (kind.document record) fault).on contents =
      (.ok true, contents.put collection (contents collection ++ [kind.document record])) := by
  have none := rows.any_hasKey (kind.username record)
  rw [free, Option.isSome_none] at none
  have inserted := insertDocument_of_free (kind.keyed record) none
  simp [Session.insertNew, execute, inserted, Reply.isDuplicate, Reply.isWritten]

/-- The document of a record whose name is taken does not. -/
theorem on_insertNew_taken (record : α)
    (taken : (table.get? (kind.username record)).isSome = true) :
    (Session.insertNew execute collection (kind.document record) fault).on contents =
      (.ok false, contents) := by
  have refused := insertDocument_of_taken (kind.keyed record)
    ((rows.any_hasKey (kind.username record)).trans taken)
  simp [Session.insertNew, execute, refused, Reply.isDuplicate]

end Kind.Rows

/-- Documents are counted. -/
theorem Session.on_count (contents : Contents) (collection : Collection) (filter : Filter) :
    (count execute collection filter).on contents =
      (.ok ((contents collection).countP filter.admits), contents) := by
  rcases counted : (contents collection).countP filter.admits with _ | number
  · have reply : execute (.count collection filter) contents = (.found [], contents) := by
      simp only [execute, counted]
    rw [count, on_bind, on_readFirst_nil reply]
    rfl
  · have reply : execute (.count collection filter) contents =
        (.found [[(Document.keyName, .int32 1), ("n", .int32 (number + 1))]], contents) := by
      simp only [execute, counted, Int.natCast_add, Int.cast_ofNat_Int]
    have read : readCount [(Document.keyName, .int32 1), ("n", .int32 (number + 1))] =
        some (number + 1) := rfl
    rw [count, on_bind, on_readFirst_cons reply read]
    rfl

/-! ### Whole operations -/

/-- The documents of a database stand for the tables in memory. -/
structure Keeps (memory : Memory) (contents : Contents) : Prop where
  users : Kind.users.Rows memory.users (contents .users)
  players : Kind.players.Rows memory.players (contents .players)
  /-- Keys of results come from identities in memory. -/
  results : ∀ document ∈ contents .results, ∃ id < 2 ^ (8 * Store.Identity.size),
    (memory.results.get? id).isSome = true ∧
      document.get? Document.keyName = some (.binary 0 (Store.Identity.bytes id))

/-- What a session comes to on some documents: its answer is the expected one, and the documents
that it leaves stand for the expected tables. -/
def Agrees (outcome : Except Fault Answer × Contents) (expected : Answer × Memory) : Prop :=
  outcome.1.map Answer.timeless = .ok expected.1.timeless ∧ Keeps expected.2 outcome.2

/-- The user is read from its document. -/
theorem readUser_of_stands {username : String} {user : UserRecord} {document : Document}
    (stands : Kind.users.Stands (username, user) document) :
    (readUser document).map UserRecord.timeless = some user.timeless := by
  obtain ⟨record, rfl, -, same⟩ := stands
  exact (readUser_userDocument record).trans (congrArg some same)

/-- The player is read from its document. -/
theorem readPlayer_of_stands {username : String} {record : PlayerRecord} {document : Document}
    (stands : Kind.players.Stands (username, record) document) (small : record.Small) :
    (readPlayer document).map PlayerRecord.timeless = some record.timeless := by
  obtain ⟨own, rfl, -, same⟩ := stands
  have read := readPlayer_playerDocument (PlayerRecord.small_of_timeless same small)
  exact read.trans (congrArg some same)

/-- A result with a fresh identity has a fresh key. -/
theorem Keeps.key_free {memory : Memory} {contents : Contents} (keeps : Keeps memory contents)
    {id : Store.ResultId} (bounded : id < 2 ^ (8 * Store.Identity.size))
    (fresh : memory.results.get? id = none) :
    ((contents .results).any fun document =>
      document.hasKey (.binary 0 (Store.Identity.bytes id))) = false := by
  rw [List.any_eq_false]
  intro document member taken
  obtain ⟨other, small, kept, keyed⟩ := keeps.results document member
  rw [Document.hasKey, keyed, Option.any_some, Value.sameKey, Bool.and_eq_true, beq_iff_eq,
    beq_iff_eq] at taken
  rw [bytes_injective small bounded taken.2, fresh] at kept
  cases kept

/-- Whether a player has a higher score can be seen in its document. -/
theorem admits_scoreAbove {row : String × PlayerRecord} {document : Document}
    (stands : Kind.players.Stands row document) (score : Nat) :
    (Filter.scoreAbove score).admits document = decide (score < row.2.stats.totalScore) := by
  obtain ⟨own, rfl, -, same⟩ := stands
  rw [← PlayerRecord.stats_eq_of_timeless same]
  exact decide_eq_decide.mpr Int.ofNat_lt

section Operations

variable {memory : Memory} {contents : Contents} (keeps : Keeps memory contents)
  (wall time : Timestamp)
include keeps

theorem agrees_registerUser (user : UserRecord)
    (together : (memory.loadPlayer user.username).isSome =
      (memory.findUser user.username).isSome) :
    Agrees ((Session.perform execute wall (.registerUser user)).on contents)
      (memory.perform time (.registerUser user)) := by
  change Agrees _ (.registered (memory.registerUser user).1, (memory.registerUser user).2)
  rw [Session.perform, Session.on_bind, Session.registerUser, Session.on_bind]
  rcases taken : memory.findUser user.username with _ | stored
  · -- Neither key is taken, and both documents go in.
    rw [taken, Option.isSome_none, Option.isSome_eq_false_iff, Option.isNone_iff_eq_none]
      at together
    let grown := contents.put .users (contents .users ++ [userDocument user])
    have first : (Session.insertNew execute .users (userDocument user)
        (.saveUser user.username)).on contents = (.ok true, grown) :=
      keeps.users.on_insertNew_free _ user taken
    have rows : Kind.players.Rows memory.players (grown .players) := keeps.players
    have second : (Session.insertNew execute .players (playerDocument (.initial user.username))
        (.savePlayer user.username)).on grown = (.ok true, grown.put .players
          (grown .players ++ [playerDocument (.initial user.username)])) :=
      rows.on_insertNew_free _ (.initial user.username) together
    rw [first, memory.registerUser_free taken]
    simp only [if_true, Session.on_bind, second, Session.on_pure]
    exact ⟨rfl, keeps.users.insert user taken, rows.insert (.initial user.username) together,
      keeps.results⟩
  · have refused : (Session.insertNew execute .users (userDocument user)
        (.saveUser user.username)).on contents = (.ok false, contents) :=
      keeps.users.on_insertNew_taken _ user (congrArg Option.isSome taken)
    rw [refused, memory.registerUser_taken taken]
    exact ⟨rfl, keeps⟩

theorem agrees_findUser (username : String) :
    Agrees ((Session.perform execute wall (.findUser username)).on contents)
      (memory.perform time (.findUser username)) := by
  obtain ⟨found, went, same⟩ := keeps.users.on_readFirst (.loadUser username) username
    fun _ stands => readUser_of_stands stands
  rw [Session.perform, Session.on_bind, Session.findUser, went]
  exact ⟨congrArg (fun record => (.ok (.user record) : Except Fault Answer)) same, keeps⟩

theorem agrees_loadPlayer (small : memory.Small) (username : String) :
    Agrees ((Session.perform execute wall (.loadPlayer username)).on contents)
      (memory.perform time (.loadPlayer username)) := by
  obtain ⟨found, went, same⟩ := keeps.players.on_readFirst (.loadPlayer username) username
    fun stored stands => readPlayer_of_stands stands (small _ (Store.Table.mem_values stored))
  rw [Session.perform, Session.on_bind, Session.loadPlayer, went]
  exact ⟨congrArg (fun record => (.ok (.player record) : Except Fault Answer)) same, keeps⟩

theorem agrees_recordLogin (username : String)
    (known : (memory.findUser username).isSome = true) :
    Agrees ((Session.perform execute wall (.recordLogin username)).on contents)
      (memory.perform time (.recordLogin username)) := by
  obtain ⟨stored, found⟩ := Option.isSome_iff_exists.mp known
  obtain ⟨changed, went, rows⟩ := keeps.users.on_write (.saveUser username) found false
    (Kind.alters_login username stored wall time)
  have noted : memory.recordLogin username time =
      { memory with
        users := memory.users.insert username { stored with lastLogin := some time } } := by
    rw [Memory.recordLogin, Store.Table.modify_of_get? found]
  rw [Session.perform, Session.on_bind, Session.recordLogin, went, Memory.perform, noted]
  exact ⟨rfl, rows, keeps.players, keeps.results⟩

theorem agrees_updateRanking (stats : Player)
    (known : (memory.loadPlayer stats.username).isSome = true) :
    Agrees ((Session.perform execute wall (.updateRanking stats)).on contents)
      (memory.perform time (.updateRanking stats)) := by
  obtain ⟨stored, found⟩ := Option.isSome_iff_exists.mp known
  obtain ⟨changed, went, rows⟩ := keeps.players.on_write (.savePlayer stats.username) found true
    (Kind.alters_ranking stats stored _)
  rw [Session.perform, Session.on_bind, Session.updateRanking, went, Memory.perform,
    Memory.updateRanking, Memory.recordOrInitial, found]
  exact ⟨rfl, keeps.users, rows, keeps.results⟩

theorem agrees_savePlayer (stats : Player)
    (known : (memory.loadPlayer stats.username).isSome = true) :
    Agrees ((Session.perform execute wall (.savePlayer stats)).on contents)
      (memory.perform time (.savePlayer stats)) := by
  obtain ⟨stored, found⟩ := Option.isSome_iff_exists.mp known
  obtain ⟨changed, went, rows⟩ := keeps.players.on_write (.savePlayer stats.username) found true
    (Kind.alters_round stats stored wall time _)
  rw [Session.perform, Session.on_bind, Session.savePlayer, went, Memory.perform,
    Memory.savePlayer, Memory.recordOrInitial, found]
  exact ⟨rfl, keeps.users, rows, keeps.results⟩

theorem agrees_saveResult (result : RoundResult)
    (known : (memory.loadPlayer result.username).isSome = true)
    (bounded : result.id < 2 ^ (8 * Store.Identity.size))
    (fresh : memory.results.get? result.id = none) :
    Agrees ((Session.perform execute wall (.saveResult result)).on contents)
      (memory.perform time (.saveResult result)) := by
  obtain ⟨stored, found⟩ := Option.isSome_iff_exists.mp known
  let grown := contents.put .results (contents .results ++ [resultDocument result])
  have inserted : insertDocument contents .results (resultDocument result) = (.done, grown) :=
    insertDocument_of_free rfl (keeps.key_free bounded fresh)
  have players : Kind.players.Rows memory.players (grown .players) := keeps.players
  obtain ⟨changed, went, rows⟩ := players.on_write (.savePlayer result.username) found false
    (Kind.alters_best result.username stored result.score)
  have kept : (Session.saveResult execute result).on contents =
      (.ok (), grown.put .players changed) := by
    rw [Session.saveResult, Session.on_bind, Session.write, Session.on_bind, Session.on_send]
    simp only [execute, inserted, Reply.isWritten, if_true, Session.on_pure]
    exact went
  rw [Session.perform, Session.on_bind, kept, Memory.perform, Memory.saveResult,
    Store.Table.modify_of_get? found]
  refine ⟨rfl, keeps.users, rows, fun document member => ?_⟩
  rcases List.mem_append.mp member with earlier | last
  · obtain ⟨id, small, kept, keyed⟩ := keeps.results document earlier
    refine ⟨id, small, ?_, keyed⟩
    rw [Store.Table.get?_insert]
    split
    · rfl
    · exact kept
  · obtain rfl := List.mem_singleton.mp last
    refine ⟨result.id, bounded, ?_, rfl⟩
    rw [Store.Table.get?_insert, if_pos rfl]
    rfl

theorem agrees_rank (small : memory.Small) (username : String) :
    Agrees ((Session.perform execute wall (.rank username)).on contents)
      (memory.perform time (.rank username)) := by
  obtain ⟨found, went, same⟩ := keeps.players.on_readFirst (.loadPlayer username) username
    fun stored stands => readPlayer_of_stands stands (small _ (Store.Table.mem_values stored))
  rw [Session.perform, Session.on_bind, Session.rank, Session.on_bind, Session.loadPlayer, went,
    Memory.perform, Memory.rank, Memory.loadPlayer]
  generalize memory.players.get? username = stored? at same ⊢
  rcases stored? with _ | stored
  · obtain rfl := Option.map_eq_none_iff.mp same
    exact ⟨rfl, keeps⟩
  · obtain ⟨record, rfl, alike⟩ := Option.map_eq_some_iff.mp same
    have ahead : (contents .players).countP
        (Filter.scoreAbove record.stats.totalScore).admits =
          memory.players.values.countP fun other =>
            decide (record.stats.totalScore < other.stats.totalScore) :=
      keeps.players.countP_eq fun stands => admits_scoreAbove stands _
    rw [PlayerRecord.stats_eq_of_timeless alike] at ahead
    simp only [Session.on_bind, Session.on_count, PlayerRecord.stats_eq_of_timeless alike, ahead,
      Session.on_pure, Nat.add_comm]
    exact ⟨rfl, keeps⟩

theorem agrees_totalPlayers :
    Agrees ((Session.perform execute wall .totalPlayers).on contents)
      (memory.perform time .totalPlayers) := by
  have all : (contents .players).countP Filter.all.admits = memory.totalPlayers :=
    (List.countP_eq_length.mpr fun _ _ => rfl).trans keeps.players.length_eq
  rw [Session.perform, Session.on_bind, Session.totalPlayers, Session.on_count, all]
  exact ⟨rfl, keeps⟩

/-- **An operation is answered alike by both stores.** -/
theorem agrees_perform {before : List Operation} (follows : memory.Follows before)
    (small : memory.Small) {operation : Operation} (proper : operation.Proper before) :
    Agrees ((Session.perform execute wall operation).on contents)
      (memory.perform time operation) := by
  cases operation with
  | registerUser user => exact agrees_registerUser keeps wall time user (follows.players _)
  | findUser username => exact agrees_findUser keeps wall time username
  | recordLogin username =>
    exact agrees_recordLogin keeps wall time username (follows.user_of_proper proper rfl)
  | loadPlayer username => exact agrees_loadPlayer keeps wall time small username
  | updateRanking stats =>
    exact agrees_updateRanking keeps wall time stats (follows.player_of_proper proper rfl)
  | savePlayer stats =>
    exact agrees_savePlayer keeps wall time stats (follows.player_of_proper proper rfl)
  | saveResult result =>
    exact agrees_saveResult keeps wall time result (follows.player_of_proper proper rfl)
      (proper.bounded _ rfl) (follows.result_of_proper proper rfl)
  | topPlayers limit => cases proper.unlisted
  | rank username => exact agrees_rank keeps wall time small username
  | totalPlayers => exact agrees_totalPlayers keeps wall time

end Operations

/-! ### Sequences of operations -/

theorem keeps_empty : Keeps {} Contents.empty where
  users := .nil
  players := .nil
  results _ member := by cases member

section Sequences

variable {σ : Type} {server : Server σ} {contents : σ → Contents}

/-- From stores that agree so far, further operations are answered alike. -/
theorem answers_eq_of_keeps (obeys : Obeys server contents)
    (asked : List (Timestamp × Operation)) {before other : List (Timestamp × Operation)} {state : σ}
    (keeps : Keeps (Memory.after before) (contents state))
    (follows : (Memory.after before).Follows (before.map Prod.snd))
    (same : other.map Prod.snd = asked.map Prod.snd)
    (proper : EachAfter Operation.Proper ((before ++ asked).map Prod.snd))
    (small : ∀ first, first <+: before ++ asked → (Memory.after first).Small) :
    (Store.answers (fun current wall operation =>
        (Session.perform server wall operation).on current) state other).map
          (Except.map Answer.timeless) =
      (Store.answers Memory.perform (Memory.after before) asked).map
        fun answer => .ok answer.timeless := by
  induction asked generalizing before other state with
  | nil =>
    obtain rfl := List.map_eq_nil_iff.mp same
    rfl
  | cons next rest ih =>
    obtain ⟨time, operation⟩ := next
    obtain ⟨⟨wall, chosen⟩, others, rfl, first, alike⟩ := List.map_eq_cons_iff.mp same
    cases first
    -- The operation fits what was asked for before, and is answered alike.
    have fits : operation.Proper (before.map Prod.snd) :=
      proper _ operation (rest.map Prod.snd) (by rw [List.map_append, List.map_cons])
    have goes := agrees_perform keeps wall time follows
      (small before (List.prefix_append ..)) fits
    have mimics := Session.perform_mimics obeys wall (fits.ne_topPlayers) state
    rw [← mimics] at goes
    obtain ⟨answered, kept⟩ := goes
    rw [← Memory.after_concat] at kept
    have after := follows.perform fits time
    rw [← Memory.after_concat] at after
    rw [List.append_cons] at proper small
    have later := ih kept (by rw [List.map_append]; exact after) alike proper small
    rw [Memory.after_concat] at later
    rw [Store.answers, Store.answers, List.map_cons, List.map_cons, answered, later]

/-- **Both stores answer alike.** Both are empty at first and are asked for the same operations, in
which every name is registered before another operation is about it, the identities of results are
fresh, and no counter leaves its range. -/
theorem answers_eq_of_obeys (obeys : Obeys server contents) {state : σ}
    (empty : contents state = Contents.empty) {asked other : List (Timestamp × Operation)}
    (same : other.map Prod.snd = asked.map Prod.snd)
    (proper : EachAfter Operation.Proper (asked.map Prod.snd))
    (small : ∀ first, first <+: asked → (Memory.after first).Small) :
    (Store.answers (fun current wall operation =>
        (Session.perform server wall operation).on current) state other).map
          (Except.map Answer.timeless) =
      (Store.answers Memory.perform {} asked).map fun answer => .ok answer.timeless := by
  have keeps : Keeps (Memory.after []) (contents state) := empty ▸ keeps_empty
  exact answers_eq_of_keeps obeys asked keeps .empty same proper small

end Sequences

/-- Two players come, and one of them finishes a round. -/
def evening : List Operation :=
  [.registerUser { username := "ann", passwordHash := "a1", createdAt := Store.someTime },
   .registerUser { username := "ann", passwordHash := "a2", createdAt := Store.someTime },
   .registerUser { username := "bob", passwordHash := "b1", createdAt := Store.someTime },
   .recordLogin "ann",
   .findUser "ann",
   .updateRanking { username := "ann", totalScore := 3, correctAnswers := 3, totalAttempts := 4 },
   .savePlayer { username := "ann", totalScore := 3, correctAnswers := 3, totalAttempts := 4 },
   .saveResult
    { id := 7, username := "ann", score := 3, accuracy := 75, attempts := 4,
      playedAt := Store.someTime },
   .loadPlayer "ann",
   .rank "bob",
   .totalPlayers]

/-- The documents alone answer as the store in memory, at other times as well. -/
theorem answers_eq_of_obeys_evening :
    (Store.answers (fun current wall operation =>
        (Session.perform execute wall operation).on current) Contents.empty
          (evening.map (({ nanos := 5 } : Timestamp), ·))).map (Except.map Answer.timeless) =
        (Store.answers Memory.perform {} (evening.map (Store.someTime, ·))).map
          (fun answer => .ok answer.timeless) ∧
      Store.answers Memory.perform {} (evening.map (Store.someTime, ·)) =
        [.registered true, .registered false, .registered true, .done,
         .user (some
          { username := "ann", passwordHash := "a1", createdAt := Store.someTime,
            lastLogin := some Store.someTime }),
         .done, .done, .done,
         .player (some
          { stats := { username := "ann", totalScore := 3, correctAnswers := 3, totalAttempts := 4 }
            gamesPlayed := 1
            bestScore := 3
            lastPlayed := some Store.someTime }),
         .position (some 2),
         .total 2] := by
  refine ⟨answers_eq_of_obeys obeys_execute rfl rfl (by decide +kernel) fun first part => ?_,
    by decide +kernel⟩
  have all : ∀ first ∈ (evening.map (Store.someTime, ·)).inits, (Memory.after first).Small := by
    decide +kernel
  exact all first ((List.mem_inits _ _).mpr part)

end Database
end TimedQuiz
