/-
**Operations on a store, one after the other.**

What a store is asked for is followed through a sequence of operations: which names have been
registered, and under which identities results have been kept.

* `Operation.Proper`: an operation that may be asked for after some others.
* `Memory.Follows.perform`: the store in memory knows the names that were registered, and keeps
  results only under the identities that were given.
-/

import Mathlib.Algebra.Group.Nat.Defs
import TimedQuiz.Proofs.Log
import TimedQuiz.Proofs.Store
import TimedQuiz.Store.Identity
import TimedQuiz.Store.Operation

namespace TimedQuiz.Store

/-! ### What operations are about -/

namespace Operation

/-- The name that is registered. -/
def registered? : Operation → Option String
  | registerUser user => some user.username
  | _ => none

/-- The name of the user whom another operation is about. -/
def username? : Operation → Option String
  | findUser username => some username
  | recordLogin username => some username
  | loadPlayer username => some username
  | updateRanking stats => some stats.username
  | savePlayer stats => some stats.username
  | saveResult result => some result.username
  | rank username => some username
  | _ => none

/-- The identity of the result that is kept. -/
def resultId? : Operation → Option ResultId
  | saveResult result => some result.id
  | _ => none

/-- The best players are asked for. -/
def isListing : Operation → Bool
  | topPlayers _ => true
  | _ => false

/-- After some operations another one may be asked for: it is about a name that was registered, it
keeps a result under an identity that no other has, and it is no listing. -/
structure Proper (before : List Operation) (operation : Operation) : Prop where
  unlisted : operation.isListing = false
  known : ∀ username ∈ operation.username?, username ∈ before.filterMap registered?
  bounded : ∀ id ∈ operation.resultId?, id < 2 ^ (8 * Identity.size)
  fresh : ∀ id ∈ operation.resultId?, id ∉ before.filterMap resultId?

instance (before : List Operation) (operation : Operation) :
    Decidable (operation.Proper before) :=
  decidable_of_iff
    (operation.isListing = false ∧
      (∀ username ∈ operation.username?, username ∈ before.filterMap registered?) ∧
      (∀ id ∈ operation.resultId?, id < 2 ^ (8 * Identity.size)) ∧
      ∀ id ∈ operation.resultId?, id ∉ before.filterMap resultId?)
    ⟨fun ⟨unlisted, known, bounded, fresh⟩ => ⟨unlisted, known, bounded, fresh⟩,
      fun proper => ⟨proper.unlisted, proper.known, proper.bounded, proper.fresh⟩⟩

theorem Proper.ne_topPlayers {before : List Operation} {operation : Operation}
    (proper : operation.Proper before) (limit : Nat) : operation ≠ .topPlayers limit := by
  rintro rfl
  cases proper.unlisted

end Operation

/-! ### Sequences -/

/-- What is answered to some operations, each asked for at its own time, one after the other. -/
def answers {σ α : Type} (perform : σ → Timestamp → Operation → α × σ) :
    σ → List (Timestamp × Operation) → List α
  | _, [] => []
  | state, (wall, operation) :: rest =>
    (perform state wall operation).1 :: answers perform (perform state wall operation).2 rest

namespace Memory

/-- The store in memory after some operations. -/
def after (asked : List (Timestamp × Operation)) : Memory :=
  asked.foldl (fun store step => (store.perform step.1 step.2).2) {}

theorem after_concat (asked : List (Timestamp × Operation)) (wall : Timestamp)
    (operation : Operation) :
    after (asked ++ [(wall, operation)]) = ((after asked).perform wall operation).2 := by
  rw [after, List.foldl_append]
  rfl

/-- The store knows what was registered, and its results are those that were kept. -/
structure Follows (before : List Operation) (store : Memory) : Prop where
  users : ∀ username ∈ before.filterMap Operation.registered?,
    (store.findUser username).isSome = true
  players : ∀ username, (store.loadPlayer username).isSome = (store.findUser username).isSome
  results : ∀ id, (store.results.get? id).isSome = true →
    id ∈ before.filterMap Operation.resultId?

namespace Follows

variable {before : List Operation} {store : Memory}

theorem empty : Follows [] {} where
  users _ member := by cases member
  players _ := rfl
  results _ found := by cases found

/-- A name that may be asked about has a user. -/
theorem user_of_proper (follows : Follows before store) {operation : Operation}
    (proper : operation.Proper before) {username : String}
    (named : operation.username? = some username) : (store.findUser username).isSome = true :=
  follows.users username (proper.known username named)

/-- A name that may be asked about has a player. -/
theorem player_of_proper (follows : Follows before store) {operation : Operation}
    (proper : operation.Proper before) {username : String}
    (named : operation.username? = some username) : (store.loadPlayer username).isSome = true :=
  (follows.players username).trans (follows.user_of_proper proper named)

/-- No result is kept under the identity that comes with another one. -/
theorem result_of_proper (follows : Follows before store) {operation : Operation}
    (proper : operation.Proper before) {id : ResultId} (kept : operation.resultId? = some id) :
    store.results.get? id = none := by
  by_contra taken
  exact proper.fresh id kept (follows.results id (Option.isSome_iff_ne_none.mpr taken))

/-- An operation that adds no rows. -/
theorem of_same (follows : Follows before store) {operation : Operation} {next : Memory}
    (unregistered : operation.registered? = none)
    (users : ∀ username, (next.findUser username).isSome = (store.findUser username).isSome)
    (players : ∀ username, (next.loadPlayer username).isSome = (store.loadPlayer username).isSome)
    (results : next.results = store.results) : Follows (before ++ [operation]) next where
  users username member := by
    rw [List.filterMap_append, List.filterMap_cons_none unregistered, List.filterMap_nil,
      List.append_nil] at member
    rw [users]
    exact follows.users username member
  players username := by rw [players, users, follows.players]
  results id found := by
    rw [List.filterMap_append]
    rw [results] at found
    exact List.mem_append_left _ (follows.results id found)

theorem registerUser (follows : Follows before store) (user : UserRecord) :
    Follows (before ++ [.registerUser user]) (store.registerUser user).2 := by
  have registered {username : String}
      (member : username ∈
        (before ++ [Operation.registerUser user]).filterMap Operation.registered?) :
      username ∈ before.filterMap Operation.registered? ∨ username = user.username := by
    rw [List.filterMap_append, List.mem_append] at member
    exact member.imp_right fun last => List.mem_singleton.mp last
  rcases found : store.findUser user.username with _ | stored
  · -- The name is free, and a user and a player are laid down for it.
    refine ⟨fun username member => ?_, fun username => ?_, fun id kept => ?_⟩
    · rw [store.findUser_registerUser username found]
      split
      · rfl
      · rename_i other
        exact follows.users username ((registered member).resolve_right other)
    · rw [store.findUser_registerUser username found, store.loadPlayer_registerUser username found]
      split
      · rfl
      · exact follows.players username
    · rw [store.registerUser_free found] at kept
      rw [List.filterMap_append]
      exact List.mem_append_left _ (follows.results id kept)
  · -- The name is taken, so it has been registered before.
    rw [store.registerUser_taken found]
    refine ⟨fun username member => ?_, follows.players, fun id kept => ?_⟩
    · rcases registered member with earlier | rfl
      · exact follows.users username earlier
      · rw [found]
        rfl
    · rw [List.filterMap_append]
      exact List.mem_append_left _ (follows.results id kept)

theorem saveResult (follows : Follows before store) (result : RoundResult) :
    Follows (before ++ [.saveResult result]) (store.saveResult result) where
  users username member := by
    rw [List.filterMap_append, List.mem_append] at member
    refine member.elim (follows.users username) fun last => by cases last
  players username := by
    rw [loadPlayer, Memory.saveResult, Table.isSome_modify]
    exact follows.players username
  results id found := by
    rw [Memory.saveResult, Table.get?_insert] at found
    rw [List.filterMap_append, List.mem_append]
    split at found
    · rename_i same
      exact .inr (List.mem_singleton.mpr same)
    · exact .inl (follows.results id found)

/-- **The store keeps following what is asked for.** -/
theorem perform (follows : Follows before store) {operation : Operation}
    (proper : operation.Proper before) (wall : Timestamp) :
    Follows (before ++ [operation]) (store.perform wall operation).2 := by
  cases operation with
  | registerUser user => exact follows.registerUser user
  | recordLogin username =>
    exact follows.of_same rfl (fun name => store.isSome_recordLogin name username wall)
      (fun _ => rfl) rfl
  | updateRanking stats =>
    have known := follows.player_of_proper proper rfl
    exact follows.of_same rfl (fun _ => rfl)
      (fun name => store.isSome_updateRanking name stats known) rfl
  | savePlayer stats =>
    have known := follows.player_of_proper proper rfl
    exact follows.of_same rfl (fun _ => rfl)
      (fun name => store.isSome_savePlayer name stats wall known) rfl
  | saveResult result => exact follows.saveResult result
  | findUser _ | loadPlayer _ | topPlayers _ | rank _ | totalPlayers =>
    exact follows.of_same rfl (fun _ => rfl) (fun _ => rfl) rfl

end Follows
end Memory
end TimedQuiz.Store
