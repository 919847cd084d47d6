/-
**The store in memory.**

Users, players and results are kept in tables of the process. Registering a user also lays down the
player's record; the counters of a player are replaced as a whole, and a finished round is counted
with the same write.
-/

import TimedQuiz.Store.Record
import TimedQuiz.Store.Table

namespace TimedQuiz.Store

/-- The tables of the store. -/
structure Memory where
  users : Table String UserRecord := .empty
  players : Table String PlayerRecord := .empty
  results : Table ResultId RoundResult := .empty

namespace Memory

/-- Registers a user and lays down the player's record; nothing happens if the name is taken. -/
def registerUser (store : Memory) (user : UserRecord) : Bool × Memory :=
  match store.users.get? user.username with
  | some _ => (false, store)
  | none =>
    (true,
      { store with
        users := store.users.insert user.username user
        players := store.players.insert user.username (.initial user.username) })

/-- The user of a name. -/
def findUser (store : Memory) (username : String) : Option UserRecord := store.users.get? username

/-- Notes the time of a login. -/
def recordLogin (store : Memory) (username : String) (wall : Timestamp) : Memory :=
  { store with
    users := store.users.modify username fun user => { user with lastLogin := some wall } }

/-- The record of a player. -/
def loadPlayer (store : Memory) (username : String) : Option PlayerRecord :=
  store.players.get? username

/-- The record of a player, or the one that comes with a new user. -/
def recordOrInitial (store : Memory) (username : String) : PlayerRecord :=
  (store.loadPlayer username).getD (.initial username)

/-- Replaces a player's counters in the course of a round. -/
def updateRanking (store : Memory) (stats : Player) : Memory :=
  let record := store.recordOrInitial stats.username
  { store with players := store.players.insert stats.username { record with stats } }

/-- Replaces a player's counters at the end of a round and counts the round. -/
def savePlayer (store : Memory) (stats : Player) (wall : Timestamp) : Memory :=
  let record := store.recordOrInitial stats.username
  { store with
    players := store.players.insert stats.username
      { record with
        stats
        gamesPlayed := record.gamesPlayed + 1
        lastPlayed := some wall } }

/-- Keeps the result of a round and raises the player's best score to it. -/
def saveResult (store : Memory) (result : RoundResult) : Memory :=
  { store with
    players := store.players.modify result.username fun record =>
      { record with bestScore := max record.bestScore result.score }
    results := store.results.insert result.id result }

/-- The first players of the leaderboard. -/
def topPlayers (store : Memory) (limit : Nat) : List PlayerRecord :=
  (store.players.values.mergeSort ranksBefore).take limit

/-- One more than the number of players with a higher total score. -/
def rank (store : Memory) (username : String) : Option Nat :=
  (store.loadPlayer username).map fun record =>
    1 + store.players.values.countP fun other =>
      decide (record.stats.totalScore < other.stats.totalScore)

/-- The number of players. -/
def totalPlayers (store : Memory) : Nat := store.players.size

/-- The number of results kept for a player. -/
def resultCount (store : Memory) (username : String) : Nat :=
  store.results.values.countP fun result => result.username == username

end Memory
end TimedQuiz.Store
