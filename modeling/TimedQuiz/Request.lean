/-
**What clients ask.**

Requests carry credentials, an answer, a switch for the sound, or the number of places of the
leaderboard wanted. Credentials and the number of places have rules of their own beyond their shape;
a violation names the field, the rule and, where there is one, a text.
-/

import TimedQuiz.Json.Record
import TimedQuiz.Text.Form
import TimedQuiz.Username

namespace TimedQuiz

/-- A rule that a field of a request breaks. -/
structure Violation where
  field : String
  code : String
  message : Option String
  deriving DecidableEq, Repr

/-! ### Credentials -/

/-- Who someone claims to be. -/
structure Credentials where
  username : String
  password : String
  deriving DecidableEq, Repr

namespace Credentials

/-- Credentials of which some parts may not be known yet. -/
structure Draft where
  username : Option String := none
  password : Option String := none

/-- Reads credentials. -/
def read : Json.Reader Credentials :=
  Json.readRecord
    [.of "username" Json.readText fun value (draft : Draft) =>
       { draft with username := some value },
     .of "password" Json.readText fun value (draft : Draft) =>
       { draft with password := some value }]
    {}
    fun draft =>
      match draft.username, draft.password with
      | some username, some password => some { username, password }
      | _, _ => none

/-- The least number of characters of a password. -/
def minPassword : Nat := 4

/-- The greatest number of characters of a password. -/
def maxPassword : Nat := 128

/-- The password is long enough and not too long. -/
def admitsPassword (password : String) : Bool :=
  minPassword ≤ password.length && password.length ≤ maxPassword

/-- The rules that credentials break, by the name of the field. -/
def violations (credentials : Credentials) : List Violation :=
  let password : List Violation :=
    if admitsPassword credentials.password then []
    else
      [{ field := "password"
         code := "length"
         message := some ("Password must be " ++ toString minPassword ++ " to " ++
           toString maxPassword ++ " characters") }]
  let username : List Violation :=
    match Username.check credentials.username with
    | .ok () => []
    | .error fault =>
      [{ field := "username", code := fault.code, message := some fault.message }]
  password ++ username

/-- The credentials break no rule. -/
def isValid (credentials : Credentials) : Bool := credentials.violations.isEmpty

end Credentials

/-! ### Answers and sound -/

/-- Reads the value of an answer, a whole number of 32 bits. -/
def readAnswer : Json.Reader Int :=
  Json.readRecord
    [.of "value" (Json.readWhole (-0x80000000) 0x7FFFFFFF) fun value (_ : Option Int) => some value]
    none id

/-- Reads the switch for the sound. -/
def readMuted : Json.Reader Bool :=
  Json.readRecord
    [.of "muted" Json.readFlag fun value (_ : Option Bool) => some value]
    none id

/-! ### The leaderboard -/

/-- How many places of the leaderboard are wanted. -/
structure BoardQuery where
  limit : Nat := 10
  deriving DecidableEq, Repr

namespace BoardQuery

/-- Why the query of an address cannot be read. -/
inductive Fault
  /-- It cannot be part of an address. -/
  | address
  /-- It is no number of places. -/
  | number
  deriving DecidableEq, Repr

/-- The greatest number of 64 bits. -/
def greatestCount : Nat := 0xFFFFFFFFFFFFFFFF

/-- The number written by ASCII digits, a plus sign in front allowed, if it fits into 64 bits. -/
def count? (digits : List UInt8) : Option Nat :=
  let plain := match digits with
    | 0x2B :: rest => rest
    | rest => rest
  if plain.isEmpty || !plain.all fun byte => 0x30 ≤ byte && byte ≤ 0x39 then none
  else
    let value := plain.foldl (fun value byte => value * 10 + (byte.toNat - 48)) 0
    if value ≤ greatestCount then some value else none

/-- Reads the query of an address; a number sign ends it, and other names than the limit are
ignored. -/
def read (query : String) : Except Fault BoardQuery :=
  let bytes := (Text.bytesOf query).takeWhile (· != 0x23)
  if !bytes.all Text.admitsInQuery then .error .address
  else
    match (Text.formPairs bytes).filter fun pair => pair.1 == Text.bytesOf "limit" with
    | [] => .ok {}
    | [(_, value)] =>
      match count? value with
      | some limit => .ok { limit }
      | none => .error .number
    | _ => .error .number

/-- The greatest number of places given at once. -/
def maxLimit : Nat := 100

/-- The rules that the query breaks. -/
def violations (query : BoardQuery) : List Violation :=
  if 1 ≤ query.limit ∧ query.limit ≤ maxLimit then []
  else [{ field := "limit", code := "range", message := none }]

end BoardQuery
end TimedQuiz
