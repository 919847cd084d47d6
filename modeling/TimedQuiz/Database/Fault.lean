/-
**What can go wrong with the database.**

Each cause has a text of its own. To the rest of the program every one of them means that the store
could not serve a call.
-/

import TimedQuiz.Store.Identity
import TimedQuiz.Store.Storage

namespace TimedQuiz.Database

/-- Why the database cannot be used, or could not do something. -/
inductive Fault
  /-- A variable of the environment is not set. -/
  | missingVariable (name : String)
  /-- The address cannot be read. -/
  | address (text : String)
  /-- The address does not make a connection. -/
  | client
  /-- The server did not answer when the connection was made. -/
  | initialPing (attempts : Nat)
  /-- The server does not answer any more. -/
  | healthPing
  | index (collection name : String)
  | saveUser (username : String)
  | loadUser (username : String)
  | savePlayer (username : String)
  | loadPlayer (username : String)
  | saveResult (id : Store.ResultId)
  | leaderboard
  deriving DecidableEq, Repr

namespace Fault

/-- A text in accents. -/
def quoted (text : String) : String := "\x60" ++ text ++ "\x60"

/-- The text of a fault. -/
def message : Fault → String
  | .missingVariable name => "missing environment variable " ++ quoted name
  | .address text => "failed to parse MongoDB connection URI " ++ quoted text
  | .client => "failed to build MongoDB client from options"
  | .initialPing attempts =>
    "MongoDB ping failed during initial connection after " ++ toString attempts ++ " attempt(s)"
  | .healthPing => "MongoDB ping health check failed"
  | .index collection name =>
    "failed to ensure index " ++ quoted name ++ " on collection " ++ quoted collection
  | .saveUser username => "failed to save user " ++ quoted username
  | .loadUser username => "failed to load user " ++ quoted username
  | .savePlayer username => "failed to save player " ++ quoted username
  | .loadPlayer username => "failed to load player " ++ quoted username
  | .saveResult id => "failed to save session result " ++ quoted (Store.Identity.text id)
  | .leaderboard => "failed to query the leaderboard"

/-- What a fault means to the rest of the program. -/
def failure (fault : Fault) : Store.Failure := { message := fault.message }

end Fault
end TimedQuiz.Database
