/-
**The leaderboard.**

The best players with their places, and the rank of a single player: one more than the number of
players with a higher total score, so that players with equal scores share a rank.
-/

import TimedQuiz.Json
import TimedQuiz.Service
import TimedQuiz.Username

namespace TimedQuiz.Leaderboard

open Store

/-- A place on the leaderboard. -/
structure Entry where
  position : Nat
  record : PlayerRecord
  deriving DecidableEq, Repr

/-- The first places of the leaderboard. -/
structure Board where
  entries : List Entry
  totalPlayers : Nat
  deriving DecidableEq, Repr

/-- Gives places to players in their order, from one on. -/
def number (records : List PlayerRecord) : List Entry :=
  records.zipIdx.map fun (record, index) => { position := index + 1, record }

/-- The best players, at most `limit` of them. -/
def top (limit : Nat) : Service Board := do
  let store ← Service.requireStore
  let records ← Service.call (store.topPlayers limit)
  let totalPlayers ← Service.call store.totalPlayers
  return { entries := number records, totalPlayers }

/-- The rank of a player among all. -/
structure Standing where
  username : String
  rank : Nat
  totalPlayers : Nat
  record : PlayerRecord
  deriving DecidableEq, Repr

/-- The trouble with a player who is not known. -/
def unknown (username : String) : Trouble :=
  .notFound ("player \x60" ++ username ++ "\x60 not found")

/-- The rank of a player; the name is checked before the store is asked. -/
def standing (username : String) : Service Standing := do
  if let .error fault := Username.check username then
    throw (.invalidInput fault.message)
  let store ← Service.requireStore
  let some record ← Service.call (store.loadPlayer username) | throw (unknown username)
  let some rank ← Service.call (store.rank username) | throw (unknown username)
  let totalPlayers ← Service.call store.totalPlayers
  return { username, rank, totalPlayers, record }

/-! ### What clients receive -/

/-- A place of the leaderboard. -/
def Entry.toJson (entry : Entry) : Json :=
  .object [
    ("position", .whole entry.position),
    ("username", .text entry.record.stats.username),
    ("total_score", .whole entry.record.stats.totalScore),
    ("accuracy", .real entry.record.accuracy),
    ("games_played", .whole entry.record.gamesPlayed),
    ("best_session_score", .whole entry.record.bestScore),
    ("last_played", Json.ofOption (fun time => .text time.text) entry.record.lastPlayed)]

/-- The first places of the leaderboard. -/
def Board.toJson (board : Board) : Json :=
  .object [
    ("entries", .array (board.entries.map Entry.toJson)),
    ("total_players", .whole board.totalPlayers)]

/-- The rank of a player. -/
def Standing.toJson (standing : Standing) : Json :=
  .object [
    ("username", .text standing.username),
    ("rank", .whole standing.rank),
    ("total_players", .whole standing.totalPlayers),
    ("total_score", .whole standing.record.stats.totalScore),
    ("accuracy", .real standing.record.accuracy),
    ("games_played", .whole standing.record.gamesPlayed),
    ("best_session_score", .whole standing.record.bestScore)]

end TimedQuiz.Leaderboard
