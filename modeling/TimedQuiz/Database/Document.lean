/-
**Documents.**

A database of documents keeps values under names; a document keeps the order of its fields. Whole
numbers have 32 or 64 bits with a sign, and a point in time is a number of milliseconds from the
beginning of 1970.
-/

import TimedQuiz.Puzzle

namespace TimedQuiz.Database

/-- A value in a document. -/
inductive Value
  | int32 (value : Int)
  | int64 (value : Int)
  | double (value : Float)
  | text (value : String)
  | bool (value : Bool)
  | null
  | date (millis : Int)
  | binary (subtype : Nat) (bytes : Bytes)
  | document (fields : List (String × Value))
  | array (items : List Value)
  deriving Inhabited

/-- The fields of a document in their order. -/
abbrev Document := List (String × Value)

namespace Value

/-- A whole number of either size. -/
def whole? : Value → Option Int
  | .int32 value => some value
  | .int64 value => some value
  | _ => none

/-- Two keys are the same; keys are texts or bytes. -/
def sameKey : Value → Value → Bool
  | .text a, .text b => a == b
  | .binary s a, .binary t b => s == t && a == b
  | _, _ => false

end Value

namespace Document

/-- The name of the field with the key of a document. -/
def keyName : String := "_id"

/-- The value of a field. -/
def get? (document : Document) (name : String) : Option Value := document.lookup name

/-- Sets a field in its place, or as the last one. -/
def set (document : Document) (name : String) (value : Value) : Document :=
  match document with
  | [] => [(name, value)]
  | field :: rest =>
    if field.1 = name then (name, value) :: rest else field :: set rest name value

/-- Sets some fields one after the other. -/
def setAll (document fields : Document) : Document :=
  fields.foldl (fun current field => set current field.1 field.2) document

/-- The document has the key. -/
def hasKey (document : Document) (key : Value) : Bool :=
  (get? document keyName).any fun value => value.sameKey key

end Document
end TimedQuiz.Database
