/-
**Accounts.**

* `Account.register_on_faulty`: how a registration goes when some calls of the store fail.
* `Account.allOrNothing_iff`: a registration that the store fails leaves nothing behind, unless the
  store fails only when the new record is read back. Then the account stays, and the client has been
  told that nothing could be done; `account_left_behind` is such a registration.
* `Account.register_on`: on a store without faults a free name is registered, and a name that is
  taken changes nothing.
* `Account.authenticate_on`: whoever knows the password gets the stored counters.
-/

import TimedQuiz.Account
import TimedQuiz.Proofs.Service
import TimedQuiz.Proofs.Store

namespace TimedQuiz.Account

open Store

/-- Nobody logs in without being registered. -/
theorem isSome_of_matchesUser {credentials : Credentials} {user : Option UserRecord}
    (known : matchesUser credentials user = true) : user.isSome = true := by
  cases user with
  | none => cases known
  | some user => rfl

/-! ### Registering -/

section Registering

variable (wall : Timestamp) (credentials : Credentials)

/-- The user that a registration lays down. -/
def userOf : UserRecord :=
  { username := credentials.username
    passwordHash := digestOf credentials.password
    createdAt := wall }

/-- How a registration is refused when the name is taken. -/
def taken (username : String) : Trouble :=
  .conflict ("username \x60" ++ username ++ "\x60 is already taken")

variable (faults : Faults) (memory : Memory)

section Free

variable (free : memory.findUser credentials.username = none)
include free

theorem registered_free :
    (memory.registerUser (userOf wall credentials)).1 = true ∧
      (memory.registerUser (userOf wall credentials)).2.findUser credentials.username =
        some (userOf wall credentials) ∧
      (memory.registerUser (userOf wall credentials)).2.loadPlayer credentials.username =
        some (.initial credentials.username) := by
  have unused : memory.findUser (userOf wall credentials).username = none := free
  have user := memory.findUser_registerUser credentials.username unused
  have record := memory.loadPlayer_registerUser credentials.username unused
  exact ⟨congrArg Prod.fst (memory.registerUser_free unused), user.trans (if_pos rfl),
    record.trans (if_pos rfl)⟩

/-- What is answered once the user has been laid down: the record is read back, and only a failure
of that call makes a difference. -/
theorem readBack_on :
    (do let record ← Service.call (faults.loadPlayer credentials.username)
        return record.getD (.initial credentials.username) : Service PlayerRecord).on
        { memory := (memory.registerUser (userOf wall credentials)).2, installed := some faults } =
      (if .loadPlayer ∈ faults.failing then
          .error (.unavailable { message := "load_player failed" })
        else .ok (.initial credentials.username),
        { memory := (memory.registerUser (userOf wall credentials)).2
          installed := some faults }) := by
  obtain ⟨-, -, laid⟩ := registered_free wall credentials memory free
  rw [Service.on_bind, Service.on_call, Faults.loadPlayer, Faults.find]
  by_cases failing : Method.loadPlayer ∈ faults.failing
  · rw [Faults.call_of_failing failing, if_pos failing]
    rfl
  · rw [Faults.call_of_working failing, if_neg failing, laid]
    by_cases missing : Method.loadPlayer ∈ faults.missing
    · rw [if_pos missing]
      rfl
    · rw [if_neg missing]
      rfl

end Free

/-- **A registration on a store with faults.** -/
theorem register_on_faulty :
    (register wall credentials).on { memory, installed := some faults } =
      if .registerUser ∈ faults.failing then
        (.error (.unavailable { message := "register_user failed" }),
          { memory, installed := some faults })
      else
        match memory.findUser credentials.username with
        | some _ => (.error (taken credentials.username), { memory, installed := some faults })
        | none =>
          (if .loadPlayer ∈ faults.failing then
              .error (.unavailable { message := "load_player failed" })
            else .ok (.initial credentials.username),
            { memory := (memory.registerUser (userOf wall credentials)).2
              installed := some faults }) := by
  have installed : ({ memory, installed := some faults } : Storage).installed = some faults := rfl
  rw [register, Service.on_bind, Service.on_requireStore installed]
  dsimp only
  rw [Service.on_bind, Service.on_call, Faults.registerUser]
  by_cases failing : Method.registerUser ∈ faults.failing
  · rw [Faults.call_of_failing failing, if_pos failing]
    rfl
  · rw [Faults.call_of_working failing, if_neg failing]
    cases found : memory.findUser credentials.username with
    | some stored =>
      have same : memory.registerUser (userOf wall credentials) = (false, memory) :=
        memory.registerUser_taken found
      rw [userOf] at same
      rw [same]
      rfl
    | none =>
      obtain ⟨fresh, -⟩ := registered_free wall credentials memory found
      rw [userOf] at fresh
      rw [fresh]
      exact readBack_on wall credentials faults memory found

/-- **All or nothing.** If the store fails a registration, the users and the records of players are
as they were before, and a name that was free can be registered once the store works again. -/
def AllOrNothing : Prop :=
  ∀ failure later,
    (register wall credentials).on { memory, installed := some faults } =
        (.error (.unavailable failure), later) →
      later.memory.users = memory.users ∧ later.memory.players = memory.players ∧
        (memory.findUser credentials.username = none → ∀ moment,
          ((register moment credentials).on { later with installed := some {} }).1 =
            .ok (.initial credentials.username))

/-- A store that fails the first call has nothing to undo. -/
theorem allOrNothing_of_failing (failing : .registerUser ∈ faults.failing) :
    AllOrNothing wall credentials faults memory := by
  intro failure later failed
  rw [register_on_faulty, if_pos failing] at failed
  obtain ⟨-, rfl⟩ := Prod.mk.inj failed
  refine ⟨rfl, rfl, fun free moment => ?_⟩
  rw [register_on_faulty, free]
  rfl

/-- **A registration that is cut off.** The first call lays the user down and the second one fails:
the client is told that the store is not available, the account is there, and whoever registers the
name again is told that it is taken. -/
theorem register_cutOff (free : memory.findUser credentials.username = none)
    (working : .registerUser ∉ faults.failing) (failing : .loadPlayer ∈ faults.failing) :
    ∃ later,
      (register wall credentials).on { memory, installed := some faults } =
        (.error (.unavailable { message := "load_player failed" }), later) ∧
      later.memory.findUser credentials.username = some (userOf wall credentials) ∧
      later.memory.loadPlayer credentials.username = some (.initial credentials.username) ∧
      ∀ moment, (register moment credentials).on { later with installed := some {} } =
        (.error (taken credentials.username), { later with installed := some {} }) := by
  obtain ⟨-, user, record⟩ := registered_free wall credentials memory free
  refine ⟨{ memory := (memory.registerUser (userOf wall credentials)).2, installed := some faults },
    ?_, user, record, fun moment => ?_⟩
  · rw [register_on_faulty, if_neg working, free]
    dsimp only
    rw [if_pos failing]
  · rw [register_on_faulty, user]
    rfl

/-- **A registration that the store fails is all or nothing unless it is cut off.** Whatever is
stored, whoever registers and whichever calls fail, the account is left behind in one case only: the
name is free, the store lays the user down, and then fails to read the new record back. -/
theorem allOrNothing_iff :
    AllOrNothing wall credentials faults memory ↔
      ¬ (memory.findUser credentials.username = none ∧ .registerUser ∉ faults.failing ∧
        .loadPlayer ∈ faults.failing) := by
  constructor
  · rintro undone ⟨free, working, failing⟩
    obtain ⟨later, failed, user, -⟩ :=
      register_cutOff wall credentials faults memory free working failing
    obtain ⟨users, -⟩ := undone _ _ failed
    rw [Memory.findUser, users, ← Memory.findUser, free] at user
    cases user
  · intro whole failure later failed
    by_cases failing : .registerUser ∈ faults.failing
    · exact allOrNothing_of_failing wall credentials faults memory failing failure later failed
    · -- The first call is carried out, so it is not the store's fault if the name is refused.
      rw [register_on_faulty, if_neg failing] at failed
      cases found : memory.findUser credentials.username with
      | some stored =>
        rw [found] at failed
        cases failed
      | none =>
        have read : .loadPlayer ∉ faults.failing := fun fails => whole ⟨found, failing, fails⟩
        rw [found] at failed
        dsimp only at failed
        rw [if_neg read] at failed
        cases failed

end Registering

/-- A first registration of a free name leaves an account behind that nobody has been told of. -/
theorem account_left_behind :
    let alice : Credentials := { username := "alice", password := "secret" }
    alice.isValid = true ∧
      ¬ AllOrNothing { nanos := 0 } alice { failing := [.loadPlayer] } {} := by
  intro alice
  refine ⟨by decide, fun undone => ?_⟩
  obtain ⟨later, failed, user, -⟩ := register_cutOff { nanos := 0 } alice
    { failing := [.loadPlayer] } {} rfl (by decide) (by decide)
  obtain ⟨users, -⟩ := undone _ _ failed
  rw [Memory.findUser, users] at user
  cases user

/-! ### A store without faults -/

variable {storage : Storage} (healthy : storage.installed = some {}) (wall : Timestamp)
  (credentials : Credentials)
include healthy

theorem register_on :
    (register wall credentials).on storage =
      match storage.memory.findUser credentials.username with
      | some _ =>
        (.error (.conflict ("username \x60" ++ credentials.username ++ "\x60 is already taken")),
          storage)
      | none =>
        (.ok (.initial credentials.username),
          { storage with
            memory := (storage.memory.registerUser
              { username := credentials.username
                passwordHash := digestOf credentials.password
                createdAt := wall }).2 }) := by
  obtain ⟨memory, installed⟩ := storage
  obtain rfl : installed = some {} := healthy
  rw [register_on_faulty]
  rfl

theorem authenticate_on :
    (authenticate wall credentials).on storage =
      if matchesUser credentials (storage.memory.findUser credentials.username) then
        (.ok (storage.memory.recordOrInitial credentials.username),
          { storage with memory := storage.memory.recordLogin credentials.username wall })
      else (.error (.unauthorized "invalid username or password"), storage) := by
  simp only [authenticate, Service.on_bind, Service.on_requireStore healthy, Faults.findUser,
    Service.on_call, Faults.call_healthy, Service.mapError_ok]
  split
  · simp only [Faults.recordLogin, Faults.loadPlayer, Service.on_bind, Service.on_attempt,
      Service.on_call, Faults.write_healthy, Faults.find_healthy,
      Service.mapError_ok]
    rfl
  · rfl

end TimedQuiz.Account
