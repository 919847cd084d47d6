/-
**Records in documents.**

A record is read back from its document, its counters exactly as long as they are in the range of
counters, and its times as far as they are set. The changes that a store asks for make of the
document of a record the document of the changed record.

* `readUser_userDocument`, `readPlayer_playerDocument`: what is read back.
* `apply_login`, `apply_ranking`, `apply_round`, `apply_best`: what the changes come to.
* `Kind.Rows`: the documents of a collection stand for the rows of a table, in the same order; and
  `Kind.Rows.update`: they still do so when a document and its row are changed alike.
-/

import Mathlib.Algebra.Group.Nat.Defs
import Mathlib.Data.List.Forall2
import TimedQuiz.Database.Engine
import TimedQuiz.Proofs.Store.Range

namespace TimedQuiz

/-! ### Times that are only looked at for being set -/

namespace Store

/-- A time that stands for any. -/
def someTime : Timestamp := { nanos := 0 }

/-- The user without the exact times. -/
def UserRecord.timeless (user : UserRecord) : UserRecord :=
  { user with createdAt := someTime, lastLogin := user.lastLogin.map fun _ => someTime }

/-- The record without the exact times. -/
def PlayerRecord.timeless (record : PlayerRecord) : PlayerRecord :=
  { record with lastPlayed := record.lastPlayed.map fun _ => someTime }

namespace PlayerRecord

variable {record other : PlayerRecord} (same : record.timeless = other.timeless)
include same

theorem stats_eq_of_timeless : record.stats = other.stats := by
  have stats : record.timeless.stats = other.timeless.stats := congrArg PlayerRecord.stats same
  exact stats

theorem small_of_timeless (small : other.Small) : record.Small := by
  have counters : record.timeless.counters = other.timeless.counters :=
    congrArg PlayerRecord.counters same
  change record.counters = other.counters at counters
  rwa [Small, counters]

end PlayerRecord
end Store

namespace Database

open Store (UserRecord PlayerRecord)

/-! ### Reading back -/

theorem counterOf_eq {count : Nat} (small : count ≤ counterLimit) : counterOf count = count := by
  rw [counterOf, Int.toNat_natCast]
  exact Nat.min_eq_left small

theorem readUser_userDocument (user : UserRecord) :
    (readUser (userDocument user)).map UserRecord.timeless = some user.timeless := by
  obtain ⟨username, passwordHash, createdAt, _ | lastLogin⟩ := user <;> rfl

/-- The counter is read back as it was written. -/
theorem readCounter_of_get? {document : Document} {name : String} {count : Nat}
    (field : document.get? name = some (counterValue count)) (small : count ≤ counterLimit) :
    readCounter document name = some count := by
  rw [readCounter, field]
  exact congrArg some (counterOf_eq small)

theorem readPlayer_playerDocument {record : PlayerRecord} (small : record.Small) :
    (readPlayer (playerDocument record)).map PlayerRecord.timeless = some record.timeless := by
  have name : readText (playerDocument record) Document.keyName = some record.stats.username := rfl
  obtain ⟨time, read, set⟩ : ∃ time, readTime? (playerDocument record) "last_played" = some time ∧
      time.map (fun _ => Store.someTime) = record.lastPlayed.map fun _ => Store.someTime := by
    obtain ⟨stats, gamesPlayed, bestScore, _ | lastPlayed⟩ := record <;> exact ⟨_, rfl, rfl⟩
  simp only [PlayerRecord.Small, PlayerRecord.counters, List.forall_mem_cons] at small
  obtain ⟨totalScore, correctAnswers, totalAttempts, gamesPlayed, bestScore, -⟩ := small
  rw [readPlayer, name, readCounter_of_get? rfl totalScore, readCounter_of_get? rfl correctAnswers,
    readCounter_of_get? rfl totalAttempts, readCounter_of_get? rfl gamesPlayed,
    readCounter_of_get? rfl bestScore, read]
  exact congrArg (fun lastPlayed => some ({ record with lastPlayed } : PlayerRecord)) set

/-! ### Changes -/

theorem apply_login (user : UserRecord) (wall : Timestamp) :
    Change.apply { set := [("last_login", timeValue wall)] } (userDocument user) =
      some (userDocument { user with lastLogin := some wall }) := by
  rfl

theorem apply_ranking (record : PlayerRecord) (stats : Player) (setOnInsert : Document)
    (own : stats.username = record.stats.username) :
    Change.apply { set := statsDocument stats, setOnInsert } (playerDocument record) =
      some (playerDocument { record with stats }) := by
  rw [playerDocument, ← own]
  rfl

theorem apply_round (record : PlayerRecord) (stats : Player) (wall : Timestamp)
    (setOnInsert : Document) (own : stats.username = record.stats.username) :
    Change.apply
        { set := statsDocument stats ++ [("last_played", timeValue wall)]
          increment := [("games_played", 1)]
          setOnInsert } (playerDocument record) =
      some (playerDocument
        { record with stats, gamesPlayed := record.gamesPlayed + 1, lastPlayed := some wall }) := by
  rw [playerDocument, ← own]
  rfl

theorem apply_best (record : PlayerRecord) (score : Nat) :
    Change.apply { raise := [("best_session_score", score)] } (playerDocument record) =
      some (playerDocument { record with bestScore := max record.bestScore score }) := by
  have raised : Change.apply { raise := [("best_session_score", score)] } (playerDocument record) =
      some (if (record.bestScore : Int) < score then
        (playerDocument record).set "best_session_score" (.int64 score)
      else playerDocument record) := rfl
  rw [raised]
  split
  · rename_i higher
    rw [Nat.max_eq_right (Nat.le_of_lt (Int.ofNat_lt.mp higher))]
    rfl
  · rename_i low
    rw [Nat.max_eq_left (Nat.le_of_not_lt (mt Int.ofNat_lt.mpr low))]

/-! ### Keys -/

/-- The bytes of an identity are its own. -/
theorem bytes_injective {id other : Store.ResultId}
    (small : id < 2 ^ (8 * Store.Identity.size)) (bound : other < 2 ^ (8 * Store.Identity.size))
    (same : Store.Identity.bytes id = Store.Identity.bytes other) : id = other := by
  refine Nat.eq_of_testBit_eq fun place => ?_
  rcases Nat.lt_or_ge place (8 * Store.Identity.size) with inside | outside
  · -- The bit is one of the byte that it falls into, counted from the lowest.
    rw [Store.Identity.size] at inside
    have index : Store.Identity.size - 1 - place / 8 ∈ List.range Store.Identity.size :=
      List.mem_range.mpr (by rw [Store.Identity.size]; omega)
    have shift : 8 * (Store.Identity.size - 1 - (Store.Identity.size - 1 - place / 8)) =
        place - place % 8 := by
      rw [Store.Identity.size]
      omega
    have byte := List.map_inj_left.mp same _ index
    rw [shift] at byte
    have bits := congrArg (fun value => value.toNat.testBit (place % 8)) byte
    have low : place % 8 < 8 := Nat.mod_lt _ (by decide)
    have bit : place - place % 8 + place % 8 = place := Nat.sub_add_cancel (Nat.mod_le _ _)
    simpa only [UInt8.toNat_ofNat', Nat.testBit_mod_two_pow, low, decide_true, Bool.true_and,
      Nat.testBit_shiftRight, bit] using bits
  · have wide := Nat.pow_le_pow_right Nat.zero_lt_two outside
    rw [Nat.testBit_lt_two_pow (Nat.lt_of_lt_of_le small wide),
      Nat.testBit_lt_two_pow (Nat.lt_of_lt_of_le bound wide)]

section Insertion

variable {contents : Contents} {collection : Collection} {document : Document} {key : Value}
  (keyed : document.get? Document.keyName = some key)
include keyed

theorem insertDocument_of_free
    (free : ((contents collection).any fun other => other.hasKey key) = false) :
    insertDocument contents collection document =
      (.done, contents.put collection (contents collection ++ [document])) := by
  rw [insertDocument, keyed, Option.any_some, free]
  rfl

theorem insertDocument_of_taken
    (taken : ((contents collection).any fun other => other.hasKey key) = true) :
    insertDocument contents collection document = (.writeError Reply.duplicateKey, contents) := by
  rw [insertDocument, keyed, Option.any_some, taken]
  rfl

end Insertion

/-! ### Documents for rows -/

/-- A kind of record with its documents: what stands in them, under which key, and how records are
compared. -/
structure Kind (α : Type) where
  document : α → Document
  username : α → String
  /-- What of the record counts in a comparison. -/
  essence : α → α
  keyed : ∀ record, (document record).get? Document.keyName = some (.text (username record))

namespace Kind

/-- Users, compared without the exact times. -/
def users : Kind UserRecord where
  document := userDocument
  username := UserRecord.username
  essence := UserRecord.timeless
  keyed _ := rfl

/-- Players, compared without the exact times. -/
def players : Kind PlayerRecord where
  document := playerDocument
  username record := record.stats.username
  essence := PlayerRecord.timeless
  keyed _ := rfl

variable {α : Type} (kind : Kind α)

theorem hasKey_document (record : α) (username : String) :
    (kind.document record).hasKey (.text username) = (kind.username record == username) := by
  rw [Document.hasKey, kind.keyed]
  rfl

/-- A document is that of a row, as far as it counts. -/
def Stands (row : String × α) (document : Document) : Prop :=
  ∃ record, document = kind.document record ∧ kind.username record = row.1 ∧
    kind.essence record = kind.essence row.2

/-- A change makes of the document of one record that of another, as far as records count. -/
def Alters (change : Change) (username : String) (stored next : α) : Prop :=
  ∀ record, kind.username record = username → kind.essence record = kind.essence stored →
    ∃ altered, change.apply (kind.document record) = some (kind.document altered) ∧
      kind.username altered = username ∧ kind.essence altered = kind.essence next

/-- The documents are those of the rows of a table, in the same order. -/
def Rows (table : Store.Table String α) (documents : List Document) : Prop :=
  List.Forall₂ kind.Stands table.rows documents

theorem hasKey_of_stands {kind : Kind α} {row : String × α} {document : Document}
    (stands : kind.Stands row document) (username : String) :
    document.hasKey (.text username) = (row.1 == username) := by
  obtain ⟨record, rfl, name, -⟩ := stands
  rw [kind.hasKey_document, name]

theorem isSome_eq_of_rel {β : Type} {related : α → β → Prop} {first : Option α}
    {second : Option β} (both : Option.Rel related first second) :
    second.isSome = first.isSome := by
  cases both <;> rfl

namespace Rows

variable {kind : Kind α} {table : Store.Table String α} {documents : List Document}

/-- A document is found under a name exactly if there is a row, and it is that of the row. -/
theorem find (rows : kind.Rows table documents) (username : String) :
    Option.Rel (fun record document => kind.Stands (username, record) document)
      (table.get? username) (documents.find? (Filter.key username).admits) := by
  rw [Store.Table.get?]
  rw [Rows] at rows
  generalize table.rows = entries at rows ⊢
  induction rows with
  | nil => exact .none
  | @cons row document rest others stands _ ih =>
    obtain ⟨name, record⟩ := row
    have key : (Filter.key username).admits document = (name == username) :=
      hasKey_of_stands stands username
    rw [Store.Table.lookup_cons_eq]
    by_cases same : username = name
    · rw [if_pos same, List.find?_cons_of_pos (by rw [key, same, beq_self_eq_true])]
      exact .some (same ▸ stands)
    · rw [if_neg same, List.find?_cons_of_neg (by rw [key, beq_iff_eq]; exact Ne.symm same)]
      exact ih

theorem any_hasKey (rows : kind.Rows table documents) (username : String) :
    (documents.any fun document => document.hasKey (.text username)) =
      (table.get? username).isSome := by
  have found : (documents.find? (Filter.key username).admits).isSome =
      (table.get? username).isSome := isSome_eq_of_rel (rows.find username)
  rw [← found, Bool.eq_iff_iff, List.any_eq_true, List.find?_isSome]
  rfl

theorem length_eq (rows : kind.Rows table documents) : documents.length = table.size :=
  (List.Forall₂.length_eq rows).symm

theorem countP_eq (rows : kind.Rows table documents) {counted : α → Bool}
    {counts : Document → Bool}
    (same : ∀ {row document}, kind.Stands row document → counts document = counted row.2) :
    documents.countP counts = table.values.countP counted := by
  rw [Store.Table.values, List.countP_map]
  rw [Rows] at rows
  generalize table.rows = entries at rows ⊢
  induction rows with
  | nil => rfl
  | cons stands _ ih => rw [List.countP_cons, List.countP_cons, ih, same stands]; rfl

/-- A new row goes with a new document. -/
theorem insert (rows : kind.Rows table documents) (record : α)
    (free : table.get? (kind.username record) = none) :
    kind.Rows (table.insert (kind.username record) record)
      (documents ++ [kind.document record]) := by
  rw [Rows, Store.Table.insert, dif_neg ((table.get?_eq_none_iff _).mp free)]
  exact List.rel_append rows (.cons ⟨record, rfl, rfl, rfl⟩ .nil)

/-- The first document with a key is changed as the row is that it stands for. -/
theorem changeFirst_eq {entries : List (String × α)}
    (rows : List.Forall₂ kind.Stands entries documents) (distinct : (entries.map Prod.fst).Nodup)
    {username : String} {stored next : α} (found : entries.lookup username = some stored)
    {change : Change} (alters : kind.Alters change username stored next) :
    ∃ changed, changeFirst username change documents = some changed ∧
      List.Forall₂ kind.Stands (Store.Table.replaceRows entries username next) changed := by
  induction rows with
  | nil => cases found
  | @cons row document entries others stands rest ih =>
    obtain ⟨name, record⟩ := row
    have key := hasKey_of_stands stands username
    obtain ⟨absent, distinct⟩ := List.nodup_cons.mp distinct
    rw [Store.Table.lookup_cons_eq] at found
    by_cases same : username = name
    · rw [if_pos same] at found
      cases found
      cases same
      obtain ⟨own, rfl, named, same⟩ := stands
      obtain ⟨altered, applied, after⟩ := alters own named same
      refine ⟨kind.document altered :: others, ?_, ?_⟩
      · rw [changeFirst, if_pos (by rw [key, beq_self_eq_true]), applied]
        rfl
      · have left := Store.Table.replaceRows_of_absent absent next
        rw [Store.Table.replaceRows, List.map_cons, if_pos rfl, ← Store.Table.replaceRows, left]
        exact .cons ⟨altered, rfl, after⟩ rest
    · rw [if_neg same] at found
      obtain ⟨changed, applied, after⟩ := ih distinct found
      refine ⟨document :: changed, ?_, ?_⟩
      · rw [changeFirst, if_neg (by rw [key, beq_iff_eq]; exact Ne.symm same), applied]
        rfl
      · rw [Store.Table.replaceRows, List.map_cons, if_neg (Ne.symm same),
          ← Store.Table.replaceRows]
        exact .cons stands after

/-- **A change of a document goes with the change of its row.** -/
theorem update {contents : Contents} {collection : Collection}
    (rows : kind.Rows table (contents collection)) {username : String} {stored next : α}
    (found : table.get? username = some stored) {change : Change} (upsert : Bool)
    (alters : kind.Alters change username stored next) :
    ∃ changed,
      updateDocument contents collection username change upsert =
        (.done, contents.put collection changed) ∧
      kind.Rows (table.insert username next) changed := by
  obtain ⟨changed, applied, after⟩ := changeFirst_eq rows table.distinct found alters
  have present := rows.any_hasKey username
  rw [found, Option.isSome_some] at present
  refine ⟨changed, ?_, ?_⟩
  · rw [updateDocument, present]
    simp only [if_true, applied]
  · have known : username ∈ table.rows.map Prod.fst := by
      by_contra absent
      rw [(table.get?_eq_none_iff username).mpr absent] at found
      cases found
    rw [Rows, Store.Table.insert, dif_pos known]
    exact after

end Rows

/-! ### The changes of a store -/

theorem alters_login (username : String) (stored : UserRecord) (wall time : Timestamp) :
    users.Alters { set := [("last_login", timeValue wall)] } username stored
      { stored with lastLogin := some time } :=
  fun record name same => ⟨_, apply_login record wall, name,
    congrArg (fun user : UserRecord => { user with lastLogin := some Store.someTime }) same⟩

theorem alters_ranking (stats : Player) (stored : PlayerRecord) (setOnInsert : Document) :
    players.Alters { set := statsDocument stats, setOnInsert } stats.username stored
      { stored with stats } :=
  fun record name same => ⟨_, apply_ranking record stats setOnInsert name.symm, rfl,
    congrArg (fun player : PlayerRecord => { player with stats }) same⟩

theorem alters_round (stats : Player) (stored : PlayerRecord) (wall time : Timestamp)
    (setOnInsert : Document) :
    players.Alters
      { set := statsDocument stats ++ [("last_played", timeValue wall)]
        increment := [("games_played", 1)]
        setOnInsert } stats.username stored
      { stored with stats, gamesPlayed := stored.gamesPlayed + 1, lastPlayed := some time } :=
  fun record name same => ⟨_, apply_round record stats wall setOnInsert name.symm, rfl,
    congrArg (fun player : PlayerRecord =>
      { player with
        stats, gamesPlayed := player.gamesPlayed + 1, lastPlayed := some Store.someTime }) same⟩

theorem alters_best (username : String) (stored : PlayerRecord) (score : Nat) :
    players.Alters { raise := [("best_session_score", score)] } username stored
      { stored with bestScore := max stored.bestScore score } :=
  fun record name same => ⟨_, apply_best record score, name,
    congrArg (fun player : PlayerRecord =>
      { player with bestScore := max player.bestScore score }) same⟩

end Kind

end Database
end TimedQuiz
