/-
**Commands of the database.**

What is asked of the database, as data, with the document that is sent for it; and what the database
replies.
-/

import TimedQuiz.Database.Form

namespace TimedQuiz.Database

/-! ### Collections and conditions -/

/-- Where documents are kept. -/
inductive Collection
  | users
  | players
  | results
  deriving DecidableEq, Repr

/-- The name of a collection. -/
def Collection.name : Collection → String
  | .users => "users"
  | .players => "players"
  | .results => "session_results"

/-- Which documents are meant. -/
inductive Filter
  | all
  /-- The document with a key. -/
  | key (username : String)
  /-- The documents with a higher total score. -/
  | scoreAbove (score : Nat)
  deriving DecidableEq, Repr

/-- The document of a filter. -/
def Filter.document : Filter → Document
  | .all => []
  | .key username => keyDocument username
  | .scoreAbove score => [("total_score", .document [("$gt", counterValue score)])]

/-! ### Changes -/

/-- How a document is changed. -/
structure Change where
  /-- The fields that are set. -/
  set : Document := []
  /-- The numbers that are added to fields. -/
  increment : List (String × Nat) := []
  /-- The numbers that fields are raised to. -/
  raise : List (String × Nat) := []
  /-- The fields that are set only in a document that did not exist before. -/
  setOnInsert : Document := []

/-- Some numbers as fields. -/
def counterFields (fields : List (String × Nat)) : Document :=
  fields.map fun field => (field.1, counterValue field.2)

/-- The document of a change: a part for each way of changing that is used. -/
def Change.document (change : Change) : Document :=
  [("$set", change.set), ("$inc", counterFields change.increment),
   ("$max", counterFields change.raise), ("$setOnInsert", change.setOnInsert)].filterMap
    fun part => if part.2.isEmpty then none else some (part.1, .document part.2)

/-! ### Commands -/

/-- Something asked of the database. -/
inductive Command
  | ping
  /-- Lets a collection be searched by some fields. -/
  | createIndex (collection : Collection) (fields : Document) (name : String)
  | insert (collection : Collection) (document : Document)
  /-- Looks for the document with a key. -/
  | find (collection : Collection) (username : String)
  /-- Changes the document with a key, or makes one if that is wanted. -/
  | update (collection : Collection) (username : String) (change : Change) (upsert : Bool)
  /-- Counts documents. -/
  | count (collection : Collection) (filter : Filter)
  /-- The first players by total score and then by accuracy. -/
  | leaderboard (limit : Nat)

namespace Command

/-- The name of a command. -/
def name : Command → String
  | .ping => "ping"
  | .createIndex _ _ _ => "createIndexes"
  | .insert _ _ => "insert"
  | .find _ _ => "find"
  | .update _ _ _ _ => "update"
  | .count _ _ => "aggregate"
  | .leaderboard _ => "aggregate"

/-- The greatest limit that can be sent. -/
def limitBound : Nat := 0x7FFFFFFFFFFFFFFF

/-- The stages by which the first players are found. -/
def leaderboardStages (limit : Nat) : List Value :=
  let share : Value :=
    .document [("$multiply", .array [
      .document [("$divide", .array [.text "$correct_answers", .text "$total_attempts"])],
      .double 100.0])]
  [.document [("$addFields", .document [("accuracy", .document [("$cond", .array [
      .document [("$gt", .array [.text "$total_attempts", .int32 0])], share, .double 0.0])])])],
   .document [("$sort", .document [("total_score", .int32 (-1)), ("accuracy", .int32 (-1))])],
   .document [("$limit", .int64 (min limit limitBound))],
   .document [("$project", .document [("accuracy", .int32 0)])]]

/-- The stages by which documents are counted. -/
def countStages (filter : Filter) : List Value :=
  [.document [("$match", .document filter.document)],
   .document [("$group", .document [
     (Document.keyName, .int32 1), ("n", .document [("$sum", .int32 1)])])]]

/-- The document of a search that goes through some stages. -/
def aggregation (collection : Collection) (stages : List Value) (database : String) : Document :=
  [("aggregate", .text collection.name), ("pipeline", .array stages), ("cursor", .document []),
   ("$db", .text database)]

/-- The document that is sent for a command. -/
def document (database : String) : Command → Document
  | .ping => [("ping", .int32 1), ("$db", .text database)]
  | .createIndex collection fields name =>
    [("createIndexes", .text collection.name),
     ("indexes", .array [.document [("key", .document fields), ("name", .text name)]]),
     ("$db", .text database)]
  | .insert collection document =>
    [("insert", .text collection.name), ("ordered", .bool true), ("$db", .text database),
     ("documents", .array [.document document])]
  | .find collection username =>
    [("find", .text collection.name), ("singleBatch", .bool true), ("limit", .int64 1),
     ("filter", .document (keyDocument username)), ("$db", .text database)]
  | .update collection username change upsert =>
    let whether : Document := if upsert then [("upsert", .bool true)] else []
    [("update", .text collection.name),
     ("updates", .array [.document ([("q", .document (keyDocument username)),
       ("u", .document change.document)] ++ whether)]),
     ("ordered", .bool true), ("$db", .text database)]
  | .count collection filter => aggregation collection (countStages filter) database
  | .leaderboard limit => aggregation .players (leaderboardStages limit) database

end Command

/-! ### Replies -/

/-- What the database replies to a command. -/
inductive Reply
  | done
  | found (documents : List Document)
  /-- The command failed. -/
  | failed (code : Int)
  /-- A document could not be written. -/
  | writeError (code : Int)
  /-- What was written may not last. -/
  | concernError (code : Int)

namespace Reply

/-- The code for a key that is there already. -/
def duplicateKey : Int := 11000

/-- A document was not written because its key was there already. -/
def isDuplicate : Reply → Bool
  | .writeError code => code == duplicateKey
  | _ => false

/-- Everything was written. -/
def isWritten : Reply → Bool
  | .done => true
  | .found _ => true
  | _ => false

/-- The documents found, unless the command failed. -/
def documents? : Reply → Option (List Document)
  | .failed _ => none
  | .found documents => some documents
  | _ => some []

end Reply
end TimedQuiz.Database
