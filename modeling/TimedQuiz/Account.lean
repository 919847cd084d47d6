/-
**Accounts.**

Whoever wants to play registers a name with a password, of which only the digest is kept. Logging in
compares digests, notes the time, and answers with the player's record.
-/

import TimedQuiz.Digest.Sha256
import TimedQuiz.Feed.Message
import TimedQuiz.Request
import TimedQuiz.Service

namespace TimedQuiz.Account

open Store

/-- The digest of a password. -/
def digestOf (password : String) : String := Sha256.hexDigest password

/-- Registers a name; a name that is taken is a conflict. -/
def register (wall : Timestamp) (credentials : Credentials) : Service PlayerRecord := do
  let store ← Service.requireStore
  let user : UserRecord :=
    { username := credentials.username
      passwordHash := digestOf credentials.password
      createdAt := wall }
  if ← Service.call (store.registerUser user) then
    let record ← Service.call (store.loadPlayer credentials.username)
    return record.getD (.initial credentials.username)
  else
    throw (.conflict ("username \x60" ++ credentials.username ++ "\x60 is already taken"))

/-- The password is that of the user. -/
def matchesUser (credentials : Credentials) (user : Option UserRecord) : Bool :=
  user.any fun record => record.passwordHash == digestOf credentials.password

/-- Checks a name and a password. -/
def authenticate (wall : Timestamp) (credentials : Credentials) : Service PlayerRecord := do
  let store ← Service.requireStore
  let user ← Service.call (store.findUser credentials.username)
  if matchesUser credentials user then
    Service.attempt (store.recordLogin credentials.username wall)
    let record ← Service.call (store.loadPlayer credentials.username)
    return record.getD (.initial credentials.username)
  else
    throw (.unauthorized "invalid username or password")

/-- What the client receives about an account. -/
def toJson (record : PlayerRecord) : Json :=
  .object [
    ("player", record.stats.toJson),
    ("games_played", .whole record.gamesPlayed),
    ("best_session_score", .whole record.bestScore)]

end TimedQuiz.Account
