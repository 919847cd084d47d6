/-
**What is stored.**

Three kinds of records: users with the digest of their password, players with their counters and
their history, and the results of finished rounds. Players are ranked by total score and then by
accuracy, the higher first.
-/

import TimedQuiz.Player
import TimedQuiz.Timestamp

namespace TimedQuiz.Store

/-- The login data of a registered user. -/
structure UserRecord where
  username : String
  /-- The digest of the password, in hexadecimal digits. -/
  passwordHash : String
  createdAt : Timestamp
  lastLogin : Option Timestamp := none
  deriving DecidableEq, Repr

/-- A player's counters and history; every number in it is a counter, up to `counterLimit`. -/
structure PlayerRecord where
  stats : Player
  /-- Rounds finished. -/
  gamesPlayed : Nat := 0
  /-- The best score of a single round. -/
  bestScore : Nat := 0
  /-- The end of the last finished round. -/
  lastPlayed : Option Timestamp := none
  deriving DecidableEq, Repr

/-- The record that comes with a new user. -/
def PlayerRecord.initial (username : String) : PlayerRecord := { stats := Player.fresh username }

/-- The percentage of correct answers over every round. -/
def PlayerRecord.accuracy (record : PlayerRecord) : Float := record.stats.accuracy

/-- The identity of the result of a round, a number of 128 bits. -/
abbrev ResultId := Nat

/-- The result of one finished round. -/
structure RoundResult where
  id : ResultId
  username : String
  score : Nat
  accuracy : Float
  attempts : Nat
  playedAt : Timestamp
  deriving DecidableEq, Repr

/-! ### The order of the leaderboard -/

/-- The place of a double in the total order of doubles: by sign first, and by magnitude within each
sign, so that every bit pattern has a place. -/
def totalOrderKey (value : Float) : Int :=
  let bits : Nat := value.toBits.toNat
  if bits < 0x8000000000000000 then bits else 0x7FFFFFFFFFFFFFFF - (bits : Int)

/-- The order of two players on the leaderboard: the higher score first, then the higher
accuracy. -/
def leaderboardOrder (a b : PlayerRecord) : Ordering :=
  (compare b.stats.totalScore a.stats.totalScore).then
    (compare (totalOrderKey b.accuracy) (totalOrderKey a.accuracy))

/-- The first player does not come after the second on the leaderboard. -/
def ranksBefore (a b : PlayerRecord) : Bool := (leaderboardOrder a b).isLE

end TimedQuiz.Store
