/-
**Addresses of a database.**

An address consists of the scheme `mongodb`, an optional user, some hosts divided by commas, behind
a slash an optional name, and behind a question mark options. Whoever stands in front of the last at
sign is the user. Which database is used is told apart from the address; a name that is missing or
blank means the standard one.
-/

import TimedQuiz.Database.Fault
import TimedQuiz.Database.Host
import TimedQuiz.Database.Options
import TimedQuiz.Text.Blank

namespace TimedQuiz.Database

/-- What an address leads to. -/
structure Address where
  hosts : List Host
  /-- The name of the database. -/
  database : String
  deriving DecidableEq, Repr

namespace Address

/-- The scheme of an address, with what divides it from the rest. -/
def scheme : List Char := "mongodb://".toList

/-- The database used when none is named. -/
def standardDatabase : String := "heart_quiz"

/-- A database may have this name; there may be none. -/
def isDatabaseName (text : List Char) : Bool :=
  (Text.resolve? text).any fun name =>
    name.toList.all fun c => !"/\\ \"$".toList.contains c

/-- Reads a user, if there is an at sign. -/
def readUser? : Option (List Char) → Option (Option User)
  | none => some none
  | some user => (User.read? user).map some

/-- Reads the hosts of an address; everything else has to be right as well. -/
def readHosts? (text : String) : Option (List Host) := do
  let chars := text.toList
  let behind ← if scheme.isPrefixOf chars then some (chars.drop scheme.length) else none
  let (front, options) := Text.divideFirst '?' behind
  let (user, place) := Text.divideLast '@' front
  let (hosts, name) := Text.divideFirst '/' place
  let user ← readUser? user
  let hosts ← (hosts.splitOn ',').mapM Host.read?
  let options ← Options.read? (options.getD [])
  if isDatabaseName (name.getD []) && options.isLawful user hosts.length then some hosts else none

/-- The name of the database to be used. -/
def databaseOf (name : Option String) : String :=
  (name.filter fun name => !name.toList.all Text.isBlank).getD standardDatabase

/-- Reads an address; the name of the database is told apart. -/
def read (text : String) (name : Option String) : Except Fault Address :=
  match readHosts? text with
  | some hosts => .ok { hosts, database := databaseOf name }
  | none => .error (.address text)

/-- The variable of the environment with the address. -/
def addressVariable : String := "MONGO_URI"

/-- Reads an address from the variables of the environment with the address and the name. -/
def ofEnvironment (text name : Option String) : Except Fault Address :=
  match text with
  | some text => read text name
  | none => .error (.missingVariable addressVariable)

end Address
end TimedQuiz.Database
