/-
**The store in a database.**

Each operation of a store becomes one or two commands. A server is anything that replies to commands
and may change by doing so; what it replies decides what an operation answers, or which fault it
ends with. What was written before a fault stays written.
-/

import TimedQuiz.Database.Command
import TimedQuiz.Database.Fault
import TimedQuiz.Span
import TimedQuiz.Store.Operation

namespace TimedQuiz.Database

open Store (Operation Answer UserRecord PlayerRecord RoundResult)

/-- What a server replies to a command, and its state afterwards. -/
abbrev Server (σ : Type) := Command → σ → Reply × σ

/-- A computation that sends commands to a server and may end with a fault. -/
abbrev Session (σ α : Type) := ExceptT Fault (StateM σ) α

variable {σ : Type} (server : Server σ)

namespace Session

/-- Sends a command. -/
def send (command : Command) : Session σ Reply := fun state =>
  let (reply, next) := server command state
  (.ok reply, next)

/-- Sends a command that writes; anything short of success is the fault. -/
def write (command : Command) (fault : Fault) : Session σ Unit := do
  let reply ← send server command
  if reply.isWritten then return () else throw fault

/-- Inserts a document, and tells whether its key was free. -/
def insertNew (collection : Collection) (document : Document) (fault : Fault) :
    Session σ Bool := do
  let reply ← send server (.insert collection document)
  if reply.isDuplicate then return false
  else if reply.isWritten then return true
  else throw fault

/-- Sends a command that reads. -/
def search (command : Command) (fault : Fault) : Session σ (List Document) := do
  match (← send server command).documents? with
  | some documents => return documents
  | none => throw fault

/-- Reads a document; one that cannot be read is a fault. -/
def readAs {α : Type} (form : Document → Option α) (fault : Fault) (document : Document) :
    Session σ α :=
  match form document with
  | some record => return record
  | none => throw fault

/-- Looks for documents and reads the first that is found. -/
def readFirst {α : Type} (command : Command) (form : Document → Option α) (fault : Fault) :
    Session σ (Option α) := do
  match ← search server command fault with
  | [] => return none
  | document :: _ => return some (← readAs form fault document)

/-- The number in a document that counts others. -/
def readCount (document : Document) : Option Nat :=
  ((document.get? "n").bind Value.whole?).bind fun count =>
    if 0 ≤ count then some count.toNat else none

/-- Counts documents; a reply without documents counts as zero. -/
def count (collection : Collection) (filter : Filter) : Session σ Nat := do
  return (← readFirst server (.count collection filter) readCount .leaderboard).getD 0

/-! ### The operations -/

/-- Registers a user and lays down the player's document; a player's document that is there already
stays. -/
def registerUser (user : UserRecord) : Session σ Bool := do
  if ← insertNew server .users (userDocument user) (.saveUser user.username) then
    let _ ← insertNew server .players (playerDocument (.initial user.username))
      (.savePlayer user.username)
    return true
  else return false

/-- The user of a name. -/
def findUser (username : String) : Session σ (Option UserRecord) :=
  readFirst server (.find .users username) readUser (.loadUser username)

/-- Notes the time of a login. -/
def recordLogin (username : String) (wall : Timestamp) : Session σ Unit :=
  write server
    (.update .users username { set := [("last_login", timeValue wall)] } false)
    (.saveUser username)

/-- The record of a player. -/
def loadPlayer (username : String) : Session σ (Option PlayerRecord) :=
  readFirst server (.find .players username) readPlayer (.loadPlayer username)

/-- Replaces a player's counters in the course of a round. -/
def updateRanking (stats : Player) : Session σ Unit :=
  write server
    (.update .players stats.username
      { set := statsDocument stats
        setOnInsert := [("games_played", .int64 0), ("best_session_score", .int64 0)] } true)
    (.savePlayer stats.username)

/-- Replaces a player's counters at the end of a round and counts the round. -/
def savePlayer (stats : Player) (wall : Timestamp) : Session σ Unit :=
  write server
    (.update .players stats.username
      { set := statsDocument stats ++ [("last_played", timeValue wall)]
        increment := [("games_played", 1)]
        setOnInsert := [("best_session_score", .int64 0)] } true)
    (.savePlayer stats.username)

/-- Keeps the result of a round and raises the player's best score to it. -/
def saveResult (result : RoundResult) : Session σ Unit := do
  write server (.insert .results (resultDocument result)) (.saveResult result.id)
  write server
    (.update .players result.username { raise := [("best_session_score", result.score)] } false)
    (.savePlayer result.username)

/-- The first players of the leaderboard. -/
def topPlayers (limit : Nat) : Session σ (List PlayerRecord) := do
  (← search server (.leaderboard limit) .leaderboard).mapM (readAs readPlayer .leaderboard)

/-- One more than the number of players with a higher total score. -/
def rank (username : String) : Session σ (Option Nat) := do
  match ← loadPlayer server username with
  | none => return none
  | some record =>
    let ahead ← count server .players (.scoreAbove record.stats.totalScore)
    return some (ahead + 1)

/-- The number of players. -/
def totalPlayers : Session σ Nat := count server .players .all

/-- The server still answers. -/
def healthCheck : Session σ Unit := do
  if (← send server .ping).documents?.isSome then return () else throw .healthPing

/-- Carries out an operation at a point in time. -/
def perform (wall : Timestamp) : Operation → Session σ Answer
  | .registerUser user => return .registered (← registerUser server user)
  | .findUser username => return .user (← findUser server username)
  | .recordLogin username => do
    recordLogin server username wall
    return .done
  | .loadPlayer username => return .player (← loadPlayer server username)
  | .updateRanking stats => do
    updateRanking server stats
    return .done
  | .savePlayer stats => do
    savePlayer server stats wall
    return .done
  | .saveResult result => do
    saveResult server result
    return .done
  | .topPlayers limit => return .players (← topPlayers server limit)
  | .rank username => return .position (← rank server username)
  | .totalPlayers => return .total (← totalPlayers server)

end Session
end TimedQuiz.Database
