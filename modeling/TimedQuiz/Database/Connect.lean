/-
**Connecting to a database.**

A connection stands once the server answers. A server that does not is asked again after a wait,
each twice as long as the one before up to a limit, and given up after some attempts. A new
connection makes sure that players can be searched by their score and results by their player.
-/

import TimedQuiz.Database.Store

namespace TimedQuiz.Database.Session

variable {σ : Type} (server : Server σ)

/-- How many times a server is asked. -/
def attemptLimit : Nat := 10

/-- The wait after the first attempt. -/
def firstWait : Span := Span.ofMillis 250

/-- The longest wait. -/
def longestWait : Span := Span.ofMillis 5000

/-- The wait after the next attempt. -/
def nextWait (wait : Span) : Span := min (wait * 2) longestWait

/-- Asks the server until it answers, with so many more attempts if the first fails; the result is
the time waited. -/
def awaitAnswer (wait waited : Span) : Nat → Session σ Span
  | 0 => do
    if (← send server .ping).documents?.isSome then return waited
    else throw (.initialPing attemptLimit)
  | attempts + 1 => do
    if (← send server .ping).documents?.isSome then return waited
    else awaitAnswer (nextWait wait) (waited + wait) attempts

/-- Waits until the server answers. -/
def establish : Session σ Span := awaitAnswer server firstWait 0 (attemptLimit - 1)

/-- Makes sure that a collection can be searched by some fields. -/
def ensureIndex (collection : Collection) (fields : Document) (name fieldNames : String) :
    Session σ Unit :=
  write server (.createIndex collection fields name) (.index collection.name fieldNames)

/-- Connects, and makes sure that players and results can be searched; the result is the time
waited. -/
def connect : Session σ Span := do
  let waited ← establish server
  ensureIndex server .players [("total_score", .int32 (-1))] "player_score_idx" "total_score"
  ensureIndex server .results [("username", .int32 1), ("played_at", .int32 (-1))]
    "result_username_idx" "username,played_at"
  return waited

end TimedQuiz.Database.Session
