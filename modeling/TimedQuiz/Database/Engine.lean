/-
**A database that works.**

What the commands mean: a server that keeps documents in collections and carries every command out.
A key is taken once in a collection. A change sets fields, adds to numbers and raises numbers; when
no document has the key and one is wanted, the change makes it from the key alone.
-/

import TimedQuiz.Database.Store

namespace TimedQuiz.Database

/-- The documents in each collection. -/
abbrev Contents := Collection → List Document

namespace Contents

/-- No documents at all. -/
def empty : Contents := fun _ => []

/-- Replaces the documents of a collection. -/
def put (contents : Contents) (collection : Collection) (documents : List Document) : Contents :=
  fun other => if other = collection then documents else contents other

end Contents

/-! ### Conditions -/

/-- A value is a number above a limit. -/
def Value.isAbove (limit : Nat) : Value → Bool
  | .int32 value => (limit : Int) < value
  | .int64 value => (limit : Int) < value
  | .double value => Float.ofNat limit < value
  | _ => false

/-- A document is meant. -/
def Filter.admits : Filter → Document → Bool
  | .all, _ => true
  | .key username, document => document.hasKey (.text username)
  | .scoreAbove score, document => (document.get? "total_score").any (Value.isAbove score)

/-! ### Changes -/

/-- Adds to a field; a field that is not there counts as zero, and only numbers can be added to. -/
def Document.add (document : Document) (name : String) (amount : Nat) : Option Document :=
  match document.get? name with
  | none => some (document.set name (.int64 amount))
  | some (.int32 value) => some (document.set name (.int64 (value + amount)))
  | some (.int64 value) => some (document.set name (.int64 (value + amount)))
  | some (.double value) => some (document.set name (.double (value + Float.ofNat amount)))
  | some _ => none

/-- Raises a field to a number, unless what is there is at least as high; among values of different
kinds, nothing and `null` come before numbers and everything else after them. -/
def Document.raise (document : Document) (name : String) (least : Nat) : Document :=
  let raised := document.set name (.int64 least)
  match document.get? name with
  | none => raised
  | some .null => raised
  | some (.int32 value) => if value < least then raised else document
  | some (.int64 value) => if value < least then raised else document
  | some (.double value) => if value < Float.ofNat least then raised else document
  | some _ => document

/-- Changes a document that is there, unless it cannot be changed. -/
def Change.apply (change : Change) (document : Document) : Option Document := do
  let set := document.setAll change.set
  let added ← change.increment.foldlM (fun current field => current.add field.1 field.2) set
  return change.raise.foldl (fun current field => current.raise field.1 field.2) added

/-- The document that a change makes from a key. -/
def Change.create (change : Change) (username : String) : Option Document := do
  let document ← change.apply (keyDocument username)
  return document.setAll change.setOnInsert

/-! ### Commands -/

/-- The code for a field that cannot be added to. -/
def typeMismatch : Int := 14

/-- Inserts a document if its key is free. -/
def insertDocument (contents : Contents) (collection : Collection) (document : Document) :
    Reply × Contents :=
  let taken := (document.get? Document.keyName).any fun key =>
    (contents collection).any fun other => other.hasKey key
  if taken then (.writeError Reply.duplicateKey, contents)
  else (.done, contents.put collection (contents collection ++ [document]))

/-- Changes the first document with a key in a list; nothing when it cannot be changed. -/
def changeFirst (username : String) (change : Change) : List Document → Option (List Document)
  | [] => some []
  | document :: rest =>
    if document.hasKey (.text username) then (change.apply document).map (· :: rest)
    else (changeFirst username change rest).map (document :: ·)

/-- Changes the document with a key, or makes one if that is wanted. -/
def updateDocument (contents : Contents) (collection : Collection) (username : String)
    (change : Change) (upsert : Bool) : Reply × Contents :=
  let documents := contents collection
  let next :=
    if documents.any fun document => document.hasKey (.text username) then
      changeFirst username change documents
    else if upsert then (change.create username).map fun document => documents ++ [document]
    else some documents
  match next with
  | some changed => (.done, contents.put collection changed)
  | none => (.writeError typeMismatch, contents)

/-- The number of a field, zero when it has none. -/
def numberOf (document : Document) (name : String) : Float :=
  match document.get? name with
  | some (.double value) => value
  | some value => (value.whole?.map Float.ofInt).getD 0.0
  | none => 0.0

/-- The share by which players with the same score are ordered. -/
def shareOf (document : Document) : Float :=
  if numberOf document "total_attempts" > 0.0 then
    numberOf document "correct_answers" / numberOf document "total_attempts" * 100.0
  else 0.0

/-- The first player does not come after the second. -/
def leads (a b : Document) : Bool :=
  let first := numberOf a "total_score"
  let second := numberOf b "total_score"
  second < first || (first == second && shareOf b ≤ shareOf a)

/-- Carries out a command. -/
def execute : Server Contents
  | .ping, contents => (.done, contents)
  | .createIndex _ _ _, contents => (.done, contents)
  | .insert collection document, contents => insertDocument contents collection document
  | .find collection username, contents =>
    (.found (((contents collection).find? (Filter.key username).admits).toList), contents)
  | .update collection username change upsert, contents =>
    updateDocument contents collection username change upsert
  | .count collection filter, contents =>
    match (contents collection).countP filter.admits with
    | 0 => (.found [], contents)
    | count => (.found [[(Document.keyName, .int32 1), ("n", .int32 count)]], contents)
  | .leaderboard limit, contents =>
    (.found (((contents .players).mergeSort leads).take limit), contents)

end TimedQuiz.Database
