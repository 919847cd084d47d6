/-
**Sessions with a server that does what it is told.**

A session is taken apart into the commands that it sends, up to the first fault.

* `Obeys`: in each of its states a server holds some documents, and it carries out the commands of a
  store on them as they are meant.
* `Session.perform_mimics`: then every operation is answered as by the documents alone, and leaves
  the documents behind that it would leave.
-/

import TimedQuiz.Database.Engine

namespace TimedQuiz.Database

variable {σ α β : Type}

/-! ### Sessions, step by step -/

namespace Session

/-- Runs a session on a server in some state. -/
def on (session : Session σ α) (state : σ) : Except Fault α × σ :=
  StateT.run (ExceptT.run session) state

@[simp]
theorem on_pure (value : α) (state : σ) :
    (pure value : Session σ α).on state = (.ok value, state) := rfl

@[simp]
theorem on_bind (first : Session σ α) (next : α → Session σ β) (state : σ) :
    (first >>= next).on state =
      match first.on state with
      | (.ok value, later) => (next value).on later
      | (.error fault, later) => (.error fault, later) := by
  simp only [on, bind, ExceptT.bind, ExceptT.run, ExceptT.mk, StateT.bind, StateT.run]
  rcases first state with ⟨_ | _, later⟩ <;> rfl

@[simp]
theorem on_send (server : Server σ) (command : Command) (state : σ) :
    (send server command).on state =
      (.ok (server command state).1, (server command state).2) := rfl

section Reading

variable {server : Server σ} {command : Command} {state later : σ} {form : Document → Option α}
  {fault : Fault}

theorem on_readFirst_nil (reply : server command state = (.found [], later)) :
    (readFirst server command form fault).on state = (.ok none, later) := by
  simp only [readFirst, search, on_bind, on_send, reply, Reply.documents?, on_pure]

theorem on_readFirst_cons {document : Document} {rest : List Document} {record : α}
    (reply : server command state = (.found (document :: rest), later))
    (read : form document = some record) :
    (readFirst server command form fault).on state = (.ok (some record), later) := by
  simp only [readFirst, search, on_bind, on_send, reply, Reply.documents?, on_pure, readAs, read]

end Reading

end Session

/-! ### Servers that obey -/

/-- The command is one of those by which a store works; others set it up, look after it or list the
best players. -/
def Command.isOfStore : Command → Bool
  | .insert _ _ => true
  | .find _ _ => true
  | .update _ _ _ _ => true
  | .count _ _ => true
  | _ => false

/-- In each of its states the server holds some documents, on which it carries out the commands of a
store as they are meant. -/
def Obeys (server : Server σ) (contents : σ → Contents) : Prop :=
  ∀ command state, command.isOfStore = true →
    ((server command state).1, contents (server command state).2) =
      execute command (contents state)

/-- The documents alone are such a server. -/
theorem obeys_execute : Obeys execute id := fun _ _ _ => rfl

/-- A session with a server goes as another one with the documents alone. -/
def Mimics (contents : σ → Contents) (session : Session σ α) (other : Session Contents α) : Prop :=
  ∀ state, ((session.on state).1, contents (session.on state).2) = other.on (contents state)

namespace Mimics

variable {contents : σ → Contents} {server : Server σ}

theorem pure (value : α) : Mimics contents (Pure.pure value) (Pure.pure value) := fun _ => rfl

theorem throw (fault : Fault) :
    Mimics contents (MonadExcept.throw fault : Session σ α) (MonadExcept.throw fault) :=
  fun _ => rfl

theorem bind {session : Session σ α} {other : Session Contents α} {next : α → Session σ β}
    {after : α → Session Contents β} (mimics : Mimics contents session other)
    (later : ∀ value, Mimics contents (next value) (after value)) :
    Mimics contents (session >>= next) (other >>= after) := by
  intro state
  have first := mimics state
  rw [Session.on_bind, Session.on_bind, ← first]
  rcases session.on state with ⟨_ | value, middle⟩
  · rfl
  · exact later value middle

theorem send (obeys : Obeys server contents) {command : Command}
    (isOfStore : command.isOfStore = true) :
    Mimics contents (Session.send server command) (Session.send execute command) := by
  intro state
  rw [Session.on_send, Session.on_send, ← obeys command state isOfStore]

end Mimics

namespace Session

variable {contents : σ → Contents} {server : Server σ} (obeys : Obeys server contents)
include obeys

theorem write_mimics {command : Command} (isOfStore : command.isOfStore = true) (fault : Fault) :
    Mimics contents (write server command fault) (write execute command fault) := by
  refine .bind (.send obeys isOfStore) fun reply => ?_
  split
  · exact .pure _
  · exact .throw _

theorem insertNew_mimics (collection : Collection) (document : Document) (fault : Fault) :
    Mimics contents (insertNew server collection document fault)
      (insertNew execute collection document fault) := by
  refine .bind (.send obeys rfl) fun reply => ?_
  split
  · exact .pure _
  · split
    · exact .pure _
    · exact .throw _

theorem readFirst_mimics {command : Command} (isOfStore : command.isOfStore = true)
    (form : Document → Option α) (fault : Fault) :
    Mimics contents (readFirst server command form fault)
      (readFirst execute command form fault) := by
  refine .bind (.bind (.send obeys isOfStore) fun reply => ?_) fun documents => ?_
  · split
    · exact .pure _
    · exact .throw _
  · cases documents with
    | nil => exact .pure _
    | cons document rest =>
      refine .bind ?_ fun record => .pure _
      unfold readAs
      split
      · exact .pure _
      · exact .throw _

theorem count_mimics (collection : Collection) (filter : Filter) :
    Mimics contents (count server collection filter) (count execute collection filter) :=
  .bind (readFirst_mimics obeys rfl _ _) fun _ => .pure _

theorem registerUser_mimics (user : Store.UserRecord) :
    Mimics contents (registerUser server user) (registerUser execute user) := by
  refine .bind (insertNew_mimics obeys _ _ _) fun fresh => ?_
  split
  · exact .bind (insertNew_mimics obeys _ _ _) fun _ => .pure _
  · exact .pure _

theorem rank_mimics (username : String) :
    Mimics contents (rank server username) (rank execute username) := by
  refine .bind (readFirst_mimics obeys rfl _ _) fun record => ?_
  cases record with
  | none => exact .pure _
  | some record => exact .bind (count_mimics obeys _ _) fun _ => .pure _

/-- **On a server that obeys, operations go as on the documents alone.** Only the list of the best
players is left out. -/
theorem perform_mimics (wall : Timestamp) {operation : Store.Operation}
    (unlisted : ∀ limit, operation ≠ .topPlayers limit) :
    Mimics contents (perform server wall operation) (perform execute wall operation) := by
  cases operation with
  | registerUser user => exact .bind (registerUser_mimics obeys user) fun _ => .pure _
  | findUser username => exact .bind (readFirst_mimics obeys rfl _ _) fun _ => .pure _
  | recordLogin username => exact .bind (write_mimics obeys rfl _) fun _ => .pure _
  | loadPlayer username => exact .bind (readFirst_mimics obeys rfl _ _) fun _ => .pure _
  | updateRanking stats => exact .bind (write_mimics obeys rfl _) fun _ => .pure _
  | savePlayer stats => exact .bind (write_mimics obeys rfl _) fun _ => .pure _
  | saveResult result =>
    refine .bind ?_ fun _ => .pure _
    exact .bind (write_mimics obeys rfl _) fun _ => write_mimics obeys rfl _
  | topPlayers limit => exact absurd rfl (unlisted limit)
  | rank username => exact .bind (rank_mimics obeys username) fun _ => .pure _
  | totalPlayers => exact .bind (count_mimics obeys _ _) fun _ => .pure _

end Session
end TimedQuiz.Database
