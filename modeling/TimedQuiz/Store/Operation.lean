/-
**The operations of a store.**

What a store is asked and what it answers, as data, so that two stores can be asked the same and
their answers compared.
-/

import TimedQuiz.Store.Memory

namespace TimedQuiz.Store

/-- An operation with what it is about. -/
inductive Operation
  | registerUser (user : UserRecord)
  | findUser (username : String)
  | recordLogin (username : String)
  | loadPlayer (username : String)
  | updateRanking (stats : Player)
  | savePlayer (stats : Player)
  | saveResult (result : RoundResult)
  | topPlayers (limit : Nat)
  | rank (username : String)
  | totalPlayers
  deriving DecidableEq, Repr

/-- What an operation answers. -/
inductive Answer
  | done
  | registered (fresh : Bool)
  | user (record : Option UserRecord)
  | player (record : Option PlayerRecord)
  | players (records : List PlayerRecord)
  | position (rank : Option Nat)
  | total (count : Nat)
  deriving DecidableEq, Repr

/-- The store in memory carries out an operation at a point in time. -/
def Memory.perform (store : Memory) (wall : Timestamp) : Operation → Answer × Memory
  | .registerUser user =>
    let (fresh, next) := store.registerUser user
    (.registered fresh, next)
  | .findUser username => (.user (store.findUser username), store)
  | .recordLogin username => (.done, store.recordLogin username wall)
  | .loadPlayer username => (.player (store.loadPlayer username), store)
  | .updateRanking stats => (.done, store.updateRanking stats)
  | .savePlayer stats => (.done, store.savePlayer stats wall)
  | .saveResult result => (.done, store.saveResult result)
  | .topPlayers limit => (.players (store.topPlayers limit), store)
  | .rank username => (.position (store.rank username), store)
  | .totalPlayers => (.total store.totalPlayers, store)

end TimedQuiz.Store
