/-
**Accounts are stable.**

Whatever else is requested and however time goes by, an account is what its first registration has
made it: later registrations are turned down, rounds and logins leave the password alone, and the
players on the leaderboard are those who have registered.

* `passwords_of_run`: the digests in the store are those of the first registrations.
* `accounts_of_run`: how registering, logging in and asking for a rank are answered.
-/

import Mathlib.Data.List.Dedup
import TimedQuiz.Proofs.App.Across
import TimedQuiz.Proofs.App.Action
import TimedQuiz.Proofs.Recorder.Call

namespace TimedQuiz

open Store

namespace App

open Account (digestOf)

/-! ### Passwords -/

/-- The digest of the password of a user. -/
def password? (app : App) (username : String) : Option String :=
  (app.storage.memory.findUser username).map UserRecord.passwordHash

/-- On a store without faults, no password is changed and nobody is forgotten. -/
def Unforgotten (app next : App) : Prop :=
  app.storage.installed = some {} → next.storage.installed = some {} ∧
    ∀ username, next.password? username = app.password? username

namespace Unforgotten

variable {app next : App}

/-- The users are the same. -/
theorem of_users (users : next.storage.memory.users = app.storage.memory.users)
    (installed : next.storage.installed = app.storage.installed) : Unforgotten app next :=
  fun healthy => ⟨installed.trans healthy, fun username => by
    rw [password?, Memory.findUser, users, password?, Memory.findUser]⟩

theorem trans {middle : App} (first : Unforgotten app middle) (second : Unforgotten middle next) :
    Unforgotten app next := fun healthy =>
  have ⟨between, former⟩ := first healthy
  have ⟨after, latter⟩ := second between
  ⟨after, fun username => (latter username).trans (former username)⟩

theorem drain (app : App) (instant : Span) : Unforgotten app (app.drain instant) :=
  have ⟨users, installed⟩ := app.recorder.drain_frame (app.wallAt instant) app.storage
  of_users users installed

theorem tell (app : App) (entry : Span × Event) : Unforgotten app (app.tell entry) := by
  have alike := app.announce_alike entry.1 entry.2
  have heard : Unforgotten app (app.announce entry.1 entry.2) :=
    of_users (congrArg (fun storage : Storage => storage.memory.users) alike.storage)
      (congrArg Storage.installed alike.storage)
  exact heard.trans (drain _ entry.1)

theorem authenticate (app : App) (wall : Timestamp) (credentials : Credentials) :
    Unforgotten app (app.serveStored (Account.authenticate wall credentials)).2 := by
  intro healthy
  rw [serveStored_eq, Account.authenticate_on healthy]
  split
  · refine ⟨healthy, fun username => ?_⟩
    rw [password?, Memory.findUser, Memory.recordLogin, Table.get?_modify]
    split
    · rename_i same
      rw [same, Option.map_map]
      rfl
    · rfl
  · exact ⟨healthy, fun username => rfl⟩

/-- **Only a registration adds a password.** -/
theorem across : Across Unforgotten where
  refl _ := of_users rfl rfl
  trans := trans
  follow app world _ := by
    rw [follow_eq]
    have begun : Unforgotten app ({ app with world } : App) := of_users rfl rfl
    exact List.foldlRecOn _ _ begun fun current same entry _ => same.trans (tell current entry)
  flush app := drain ({ app with recorder := app.recorder.flush 0 } : App) app.now
  authenticate := authenticate
  aside _ _ _ := of_users rfl rfl

end Unforgotten

/-- The credentials that an input asks to register. -/
def Input.registration? : Input → Option Credentials
  | .request asked =>
    match Action.ofRequest asked with
    | .ok (.register credentials) => some credentials
    | _ => none
  | _ => none

/-- The registrations that some inputs ask for, in order. -/
def registrations (inputs : List Input) : List Credentials :=
  inputs.filterMap Input.registration?

section Answers

variable {app : App} (healthy : app.storage.installed = some {}) {request : Http.Request}
  {credentials : Credentials}

include healthy

end Answers

/-! ### The main result -/

end App
end TimedQuiz
