/-
**Reading records.**

A record is written as an object with named fields, or as an array of its fields in order. Reading
fills a draft field by field; what a draft lacks at the end decides whether there is a record. A
field named twice is refused, and fields that the record does not have are skipped.
-/

import TimedQuiz.Json.Reader

namespace TimedQuiz.Json

/-- A field of a record: its name, and how a value of it is put into the draft. -/
structure Field (σ : Type) where
  name : String
  read : Reader (σ → σ)

/-- A field whose value is stored in the draft by `put`. -/
def Field.of {σ α : Type} (name : String) (read : Reader α) (put : α → σ → σ) : Field σ :=
  { name
    read := fun chars => do
      let (value, rest) ← read chars
      return (put value, rest) }

/-- The text of the next element of an array, or nothing at the end of the array. -/
def nextElement? (first : Bool) (chars : List Char) : Except Fault (Option (List Char)) :=
  match skipBlanks chars with
  | [] => .error .truncated
  | ']' :: _ => .ok none
  | c :: rest =>
    if first then .ok (some (c :: rest))
    else if c = ',' then
      match skipBlanks rest with
      | [] => .error .truncated
      | ']' :: _ => .error .malformed
      | later => .ok (some later)
    else .error .malformed

/-- Fills a draft from the elements of an array, as far as they go. -/
def readElements {σ : Type} (first : Bool) (draft : σ) :
    List (Field σ) → Reader σ
  | [], chars => .ok (draft, chars)
  | field :: later, chars => do
    match ← nextElement? first chars with
    | none => return (draft, chars)
    | some element =>
      let (put, rest) ← field.read element
      readElements false (put draft) later rest

/-- The text of the next member of an object after its opening quote, or nothing at the end. -/
def nextMember? (first : Bool) (chars : List Char) : Except Fault (Option (List Char)) :=
  match skipBlanks chars with
  | [] => .error .truncated
  | '\x7d' :: _ => .ok none
  | c :: rest =>
    if first then if c = '"' then .ok (some rest) else .error .malformed
    else if c = ',' then
      match skipBlanks rest with
      | [] => .error .truncated
      | '"' :: later => .ok (some later)
      | _ => .error .malformed
    else .error .malformed

/-- The text after a colon. -/
def afterColon (chars : List Char) : Except Fault (List Char) :=
  match skipBlanks chars with
  | [] => .error .truncated
  | ':' :: rest => .ok rest
  | _ => .error .malformed

/-- Fills a draft from the members of an object, at most `bound` of them. -/
def readMembers {σ : Type} (fields : List (Field σ)) :
    Nat → Bool → List String → σ → Reader σ
  | 0, _, _, _, _ => .error .truncated
  | bound + 1, first, seen, draft, chars => do
    match ← nextMember? first chars with
    | none => return (draft, chars)
    | some quoted =>
      let (key, rest) ← readQuoted quoted
      let name := String.ofList key
      match fields.find? fun field => field.name == name with
      | some field =>
        if seen.contains name then .error .mismatch
        else
          let (put, later) ← field.read (← afterColon rest)
          readMembers fields bound false (name :: seen) (put draft) later
      | none =>
        let later ← skipValue (← afterColon rest)
        readMembers fields bound false seen draft later

/-- Reads a record: `finish` makes it of the filled draft, or nothing when a field is missing. -/
def readRecord {σ α : Type} (fields : List (Field σ)) (empty : σ) (finish : σ → Option α) :
    Reader α := fun chars => do
  let close (bracket : Char) (draft : σ) (rest : List Char) : Except Fault (α × List Char) :=
    match finish draft with
    | none => .error .mismatch
    | some record =>
      match skipBlanks rest with
      | [] => .error .truncated
      | c :: later => if c = bracket then .ok (record, later) else .error .malformed
  match skipBlanks chars with
  | '[' :: rest =>
    let (draft, later) ← readElements true empty fields rest
    close ']' draft later
  | '\x7b' :: rest =>
    let (draft, later) ← readMembers fields (rest.length + 1) true [] empty rest
    close '\x7d' draft later
  | _ => .error (wrongKind chars)

/-- Reads a whole text: nothing but blanks may follow the value. -/
def readAll {α : Type} (read : Reader α) (chars : List Char) : Except Fault α := do
  let (value, rest) ← read chars
  if (skipBlanks rest).isEmpty then return value else .error .malformed

end TimedQuiz.Json
