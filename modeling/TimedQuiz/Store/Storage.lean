/-
**The installed store.**

The application works on whatever store is installed at the moment, or on none. An installed store
is the store in memory under some faults: operations that fail have no effect, and operations made
to miss find nothing. Each call of an installed store is one function here, and tells apart what it
answers and that it could not be served.
-/

import TimedQuiz.Store.Memory

namespace TimedQuiz.Store

/-- The calls of a store. -/
inductive Method
  | registerUser
  | findUser
  | recordLogin
  | loadPlayer
  | updateRanking
  | savePlayer
  | saveResult
  | topPlayers
  | rank
  | totalPlayers
  | healthCheck
  | tryReconnect
  deriving DecidableEq, Repr

/-- The name of a call. -/
def Method.name : Method → String
  | .registerUser => "register_user"
  | .findUser => "find_user"
  | .recordLogin => "record_login"
  | .loadPlayer => "load_player"
  | .updateRanking => "update_ranking"
  | .savePlayer => "save_player"
  | .saveResult => "save_session_result"
  | .topPlayers => "top_players"
  | .rank => "rank"
  | .totalPlayers => "total_players"
  | .healthCheck => "health_check"
  | .tryReconnect => "try_reconnect"

/-- A call that the store could not serve. -/
structure Failure where
  message : String
  deriving DecidableEq, Repr

/-- The text of a failure. -/
def Failure.text (failure : Failure) : String := "storage unavailable: " ++ failure.message

/-- Which calls of an installed store fail, and which find nothing. -/
structure Faults where
  failing : List Method := []
  missing : List Method := []
  deriving DecidableEq, Repr

namespace Faults

/-- A call under some faults: one that fails has no effect. -/
def call {α : Type} (faults : Faults) (method : Method) (act : Memory → α × Memory)
    (memory : Memory) : Except Failure α × Memory :=
  if method ∈ faults.failing then (.error { message := method.name ++ " failed" }, memory)
  else
    let (answer, next) := act memory
    (.ok answer, next)

/-- A call that changes nothing, and finds nothing when it is made to miss. -/
def find {α : Type} (faults : Faults) (method : Method) (look : Memory → Option α)
    (memory : Memory) : Except Failure (Option α) × Memory :=
  faults.call method
    (fun current => (if method ∈ faults.missing then none else look current, current)) memory

/-- A call that changes the store and answers nothing. -/
def write (faults : Faults) (method : Method) (change : Memory → Memory) (memory : Memory) :
    Except Failure Unit × Memory :=
  faults.call method (fun current => ((), change current)) memory

/-- Registers a user; the answer is whether the name was free. -/
def registerUser (faults : Faults) (user : UserRecord) : Memory → Except Failure Bool × Memory :=
  faults.call .registerUser fun memory => memory.registerUser user

/-- The user of a name. -/
def findUser (faults : Faults) (username : String) :
    Memory → Except Failure (Option UserRecord) × Memory :=
  faults.call .findUser fun memory => (memory.findUser username, memory)

/-- Notes the time of a login. -/
def recordLogin (faults : Faults) (username : String) (wall : Timestamp) :
    Memory → Except Failure Unit × Memory :=
  faults.write .recordLogin fun memory => memory.recordLogin username wall

/-- The record of a player. -/
def loadPlayer (faults : Faults) (username : String) :
    Memory → Except Failure (Option PlayerRecord) × Memory :=
  faults.find .loadPlayer fun memory => memory.loadPlayer username

/-- Replaces a player's counters in the course of a round. -/
def updateRanking (faults : Faults) (stats : Player) : Memory → Except Failure Unit × Memory :=
  faults.write .updateRanking fun memory => memory.updateRanking stats

/-- Replaces a player's counters at the end of a round and counts the round. -/
def savePlayer (faults : Faults) (stats : Player) (wall : Timestamp) :
    Memory → Except Failure Unit × Memory :=
  faults.write .savePlayer fun memory => memory.savePlayer stats wall

/-- Keeps the result of a round. -/
def saveResult (faults : Faults) (result : RoundResult) :
    Memory → Except Failure Unit × Memory :=
  faults.write .saveResult fun memory => memory.saveResult result

/-- The first players of the leaderboard. -/
def topPlayers (faults : Faults) (limit : Nat) :
    Memory → Except Failure (List PlayerRecord) × Memory :=
  faults.call .topPlayers fun memory => (memory.topPlayers limit, memory)

/-- The rank of a player. -/
def rank (faults : Faults) (username : String) : Memory → Except Failure (Option Nat) × Memory :=
  faults.find .rank fun memory => memory.rank username

/-- The number of players. -/
def totalPlayers (faults : Faults) : Memory → Except Failure Nat × Memory :=
  faults.call .totalPlayers fun memory => (memory.totalPlayers, memory)

end Faults

/-- The tables of the process and the store installed over them, if any. -/
structure Storage where
  memory : Memory := {}
  installed : Option Faults := none

end TimedQuiz.Store
