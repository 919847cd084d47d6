/-
**Records as documents.**

How users, players and results are written as documents, and how documents are read back. Counters
are written as numbers of 64 bits; what is read of them is cut to the range of counters. Times are
cut to milliseconds and to the range of dates.
-/

import TimedQuiz.Database.Document
import TimedQuiz.Store.Identity
import TimedQuiz.Store.Record
import TimedQuiz.Text.Form

namespace TimedQuiz.Database

open Store (UserRecord PlayerRecord RoundResult)

/-! ### Writing -/

/-- A counter as a value. -/
def counterValue (count : Nat) : Value := .int64 count

/-- The first time that a date can hold. -/
def leastDate : Int := -0x8000000000000000

/-- The last time that a date can hold. -/
def greatestDate : Int := 0x7FFFFFFFFFFFFFFF

/-- A point in time as a value; one that no date can hold becomes the nearest that can be held. -/
def timeValue (time : Timestamp) : Value := .date (max leastDate (min time.millis greatestDate))

/-- A point in time that may be missing. -/
def timeValue? : Option Timestamp → Value
  | some time => timeValue time
  | none => .null

/-- The field with the key of a user or a player. -/
def keyDocument (username : String) : Document := [(Document.keyName, .text username)]

/-- The counters of a player. -/
def statsDocument (stats : Player) : Document :=
  [("total_score", counterValue stats.totalScore),
   ("correct_answers", counterValue stats.correctAnswers),
   ("total_attempts", counterValue stats.totalAttempts)]

/-- The document of a user. -/
def userDocument (user : UserRecord) : Document :=
  keyDocument user.username ++
    [("password_hash", .text user.passwordHash),
     ("created_at", timeValue user.createdAt),
     ("last_login", timeValue? user.lastLogin)]

/-- The document of a player. -/
def playerDocument (record : PlayerRecord) : Document :=
  keyDocument record.stats.username ++ statsDocument record.stats ++
    [("games_played", counterValue record.gamesPlayed),
     ("best_session_score", counterValue record.bestScore),
     ("last_played", timeValue? record.lastPlayed)]

/-- The document of a result. -/
def resultDocument (result : RoundResult) : Document :=
  [(Document.keyName, .binary 0 (Store.Identity.bytes result.id)),
   ("username", .text result.username),
   ("score", counterValue result.score),
   ("accuracy", .double result.accuracy),
   ("attempts", counterValue result.attempts),
   ("played_at", timeValue result.playedAt)]

/-! ### Reading -/

/-- A number cut to the range of counters. -/
def counterOf (value : Int) : Nat := min value.toNat counterLimit

/-- The text of a field, which must be there; it may be kept as plain bytes as well. -/
def readText (document : Document) (name : String) : Option String :=
  match document.get? name with
  | some (.text value) => some value
  | some (.binary 0 bytes) => Text.ofBytes? bytes
  | _ => none

/-- The counter of a field; a field that is not there counts as zero. -/
def readCounter (document : Document) (name : String) : Option Nat :=
  match document.get? name with
  | none => some 0
  | some value => value.whole?.map counterOf

/-- The time of a field, which must be there. -/
def readTime (document : Document) (name : String) : Option Timestamp :=
  match document.get? name with
  | some (.date millis) => some (Timestamp.ofMillis millis)
  | _ => none

/-- The time of a field, which may be missing or null. -/
def readTime? (document : Document) (name : String) : Option (Option Timestamp) :=
  match document.get? name with
  | none => some none
  | some .null => some none
  | some (.date millis) => some (some (Timestamp.ofMillis millis))
  | some _ => none

/-- The user of a document. -/
def readUser (document : Document) : Option UserRecord := do
  let username ← readText document Document.keyName
  let passwordHash ← readText document "password_hash"
  let createdAt ← readTime document "created_at"
  let lastLogin ← readTime? document "last_login"
  return { username, passwordHash, createdAt, lastLogin }

/-- The player of a document. -/
def readPlayer (document : Document) : Option PlayerRecord := do
  let username ← readText document Document.keyName
  let totalScore ← readCounter document "total_score"
  let correctAnswers ← readCounter document "correct_answers"
  let totalAttempts ← readCounter document "total_attempts"
  let gamesPlayed ← readCounter document "games_played"
  let bestScore ← readCounter document "best_session_score"
  let lastPlayed ← readTime? document "last_played"
  return {
    stats := { username, totalScore, correctAnswers, totalAttempts }
    gamesPlayed
    bestScore
    lastPlayed }

end TimedQuiz.Database
