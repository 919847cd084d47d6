/-
**Logins to a database.**

A login is told by the user in front of the hosts of an address and by some options: the mechanism
by which the user is known, the source of the users, and properties of the mechanism. Each mechanism
asks for some of these and refuses others.
-/

import TimedQuiz.Text.Divide
import TimedQuiz.Text.Form
import TimedQuiz.Text.Lower

namespace TimedQuiz.Database

/-! ### Users -/

/-- Who stands in front of the at sign. -/
structure User where
  /-- Nobody, if nothing is written. -/
  name : Option String
  password : Option String
  deriving DecidableEq, Repr

namespace User

/-- Every percent sign is followed by two hexadecimal digits. -/
def percentsResolve : List Char → Bool
  | '%' :: high :: low :: rest =>
    (Text.Hex.value? high).isSome && (Text.Hex.value? low).isSome &&
      percentsResolve (high :: low :: rest)
  | '%' :: _ => false
  | _ :: rest => percentsResolve rest
  | [] => true

/-- Reads a name or a password; the characters that divide an address are refused. -/
def readPart? (text : List Char) : Option String :=
  if text.all (fun c => !":/?#[]@".toList.contains c) && percentsResolve text then
    Text.resolve? text
  else none

/-- Reads a user, with a password behind a colon or without; a password without a name has to be
right as well, but is passed over. -/
def read? (text : List Char) : Option User := do
  let (name, password) := Text.divideFirst ':' text
  let name ← readPart? name
  let password ← match password with
    | none => some none
    | some password => (readPart? password).map some
  if name.isEmpty then return { name := none, password := none }
  else return { name := some name, password }

end User

/-! ### Mechanisms -/

/-- How a user is known. -/
inductive Mechanism
  /-- By an answer to a salted question. -/
  | salted
  /-- By an answer to a question. -/
  | challenge
  /-- By a certificate. -/
  | certificate
  /-- By the password itself. -/
  | plain
  /-- By a token of somebody else. -/
  | token
  deriving DecidableEq, Repr

/-- The mechanism with a name. -/
def Mechanism.ofName? (name : String) : Option Mechanism :=
  [("SCRAM-SHA-1", .salted), ("SCRAM-SHA-256", .salted), ("MONGODB-CR", .challenge),
   ("MONGODB-X509", .certificate), ("PLAIN", .plain), ("MONGODB-OIDC", .token)].lookup name

/-! ### Logins -/

/-- The properties of a mechanism by their names; of two with one name the last counts. -/
abbrev Properties := List (String × String)

namespace Properties

/-- The value of a property. -/
def value? (properties : Properties) (name : String) : Option String :=
  properties.reverse.lookup name

/-- The properties that cannot be written in an address. -/
def unwritable : List String := ["ALLOWED_HOSTS", "OIDC_CALLBACK", "OIDC_HUMAN_CALLBACK"]

/-- Reads a property: a name, a colon and a value. -/
def readOne? (text : List Char) : Option (String × String) :=
  match Text.divideFirst ':' text with
  | (name, some value) =>
    let name := String.ofList name
    if unwritable.contains name then none else some (name, String.ofList value)
  | (_, none) => none

/-- Reads properties with commas between them. -/
def read? (text : List Char) : Option Properties := (text.splitOn ',').mapM readOne?

/-- Whether the name of the host is looked up is told by one of a few words. -/
def canonicalizes (properties : Properties) : Bool :=
  (properties.value? "CANONICALIZE_HOST_NAME").all fun value =>
    ["true", "false", "none", "forward", "forwardandreverse"].contains (Text.lower value)

/-- Where a token comes from. -/
def environment? (properties : Properties) : Option String := properties.value? "ENVIRONMENT"

/-- What a token is for is told exactly where that has to be known, and only the known places have
tokens. -/
def fitToken (properties : Properties) : Bool :=
  let places := ["azure", "gcp"]
  properties.all (fun property => ["ENVIRONMENT", "TOKEN_RESOURCE"].contains property.1) &&
    properties.environment?.all (fun place => ("k8s" :: places).contains place) &&
    (properties.value? "TOKEN_RESOURCE").isSome == properties.environment?.any places.contains

end Properties

/-- What is told about a login. -/
structure Login where
  /-- Absent if there is no at sign. -/
  user : Option User
  mechanism : Option Mechanism
  /-- Where the users are known. -/
  source : Option String
  properties : Properties
  deriving DecidableEq, Repr

namespace Login

/-- The name of the user. -/
def name (login : Login) : Option String := login.user.bind User.name

/-- The password of the user. -/
def password (login : Login) : Option String := login.user.bind User.password

/-- The users are known outside of the database. -/
def isExternal (login : Login) : Bool := login.source.all (· == "$external")

/-- The login has what a mechanism asks for and nothing that it refuses. -/
def fits (login : Login) : Mechanism → Bool
  | .salted => login.name.isSome
  | .challenge => true
  | .certificate => login.password.isNone && login.isExternal
  | .plain => login.name.isSome && login.password.isSome
  | .token => login.password.isNone && login.isExternal && login.properties.fitToken

/-- The login can be tried. Without a mechanism, somebody must stand in front of an at sign. -/
def isLawful (login : Login) : Bool :=
  match login.mechanism with
  | some mechanism => login.properties.canonicalizes && login.fits mechanism
  | none => login.user.all fun user => user.name.isSome

end Login
end TimedQuiz.Database
