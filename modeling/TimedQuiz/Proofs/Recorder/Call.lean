/-
**The recorder's worker, call by call.**

A job comes down to calls of the store: one for a graded answer, and two for a round that is over.
The worker makes them one after the other, and other things may happen in between.

* `Call.on_eq`: a call that fails changes nothing, whatever the others do.
* `work_eq`: the worker that takes a job and finishes it at once makes all of its calls.
* `drain_frame`: whatever it does, the users stay, and the store stays installed or not.
* `stats_foldl`: the counters in the store are those of the last call that brought some.
-/

import Mathlib.Data.List.Induction
import TimedQuiz.Proofs.Store
import TimedQuiz.Recorder

namespace TimedQuiz.Recorder

open Store

/-! ### Calls -/

/-- A call of the store. -/
inductive Call
  | updateRanking (stats : Player)
  | savePlayer (stats : Player)
  | saveResult (result : RoundResult)
  deriving DecidableEq, Repr

namespace Call

/-- The method that is called. -/
def method : Call → Method
  | updateRanking _ => .updateRanking
  | savePlayer _ => .savePlayer
  | saveResult _ => .saveResult

/-- The counters that the call brings. -/
def stats? : Call → Option Player
  | updateRanking stats => some stats
  | savePlayer stats => some stats
  | saveResult _ => none

/-- What the call makes of the tables when it does not fail. -/
def apply (wall : Timestamp) (memory : Memory) : Call → Memory
  | updateRanking stats => memory.updateRanking stats
  | savePlayer stats => memory.savePlayer stats wall
  | saveResult result => memory.saveResult result

/-- What the call makes of the tables of a store with some faults. -/
def on (faults : Faults) (wall : Timestamp) (memory : Memory) : Call → Memory
  | updateRanking stats => (faults.updateRanking stats memory).2
  | savePlayer stats => (faults.savePlayer stats wall memory).2
  | saveResult result => (faults.saveResult result memory).2

/-- **A call that fails changes nothing.** -/
theorem on_eq (faults : Faults) (wall : Timestamp) (memory : Memory) (call : Call) :
    call.on faults wall memory =
      if call.method ∈ faults.failing then memory else call.apply wall memory := by
  have written (method : Method) (change : Memory → Memory) :
      (faults.write method change memory).2 =
        if method ∈ faults.failing then memory else change memory := by
    unfold Faults.write Faults.call
    split <;> rfl
  cases call <;> exact written _ _

end Call

/-! ### Jobs -/

namespace Job

/-- The calls of a job, in order. -/
def calls : Job → List Call
  | ranking stats => [.updateRanking stats]
  | roundFinished stats result => [.savePlayer stats, .saveResult result]
  | flush _ => []

/-- Who waits for the job. -/
def waiter? : Job → Option Nat
  | flush waiter => some waiter
  | _ => none

/-- The identity of the result in the job. -/
def resultId? : Job → Option ResultId
  | roundFinished _ result => some result.id
  | _ => none

theorem length_calls_le (job : Job) : job.calls.length ≤ 2 := by
  cases job <;> simp [calls]

theorem write_eq (faults : Faults) (wall : Timestamp) (memory : Memory) (job : Job) :
    write faults wall memory job =
      job.calls.foldl (fun current call => call.on faults wall current) memory := by
  cases job <;> rfl

end Job

/-- Takes the first job; who waits for it is released. -/
def take? (recorder : Recorder) : Option (Job × Recorder) :=
  match recorder.queue with
  | [] => none
  | job :: later =>
    some (job,
      { recorder with queue := later, released := recorder.released ++ job.waiter?.toList })

theorem take?_eq_some {recorder next : Recorder} {job : Job}
    (takes : recorder.take? = some (job, next)) :
    recorder.queue = job :: next.queue ∧ next.nextResult = recorder.nextResult ∧
      next.released = recorder.released ++ job.waiter?.toList := by
  obtain ⟨queue, nextResult, released⟩ := recorder
  cases queue with
  | nil => cases takes
  | cons first later =>
    obtain ⟨rfl, rfl⟩ := Prod.mk.inj (Option.some.inj takes)
    exact ⟨rfl, rfl, rfl⟩

/-- **To do a job at once is to take it and to make all of its calls** on the store that is
installed. -/
theorem work_eq (wall : Timestamp) (recorder : Recorder) (storage : Storage) :
    work wall recorder storage =
      match recorder.take?, storage.installed with
      | none, _ => (recorder, storage)
      | some (_, next), none => (next, storage)
      | some (job, next), some faults =>
        (next,
          { storage with
            memory :=
              job.calls.foldl (fun current call => call.on faults wall current)
                storage.memory }) := by
  obtain ⟨queue, nextResult, released⟩ := recorder
  obtain ⟨memory, installed⟩ := storage
  cases queue with
  | nil => rfl
  | cons job later =>
    cases job <;> cases installed <;> simp [work, take?, Job.waiter?, Job.write_eq, Job.calls]

/-! ### What the worker leaves alone -/

/-- No call of the worker touches a user. -/
theorem Call.users_on (faults : Faults) (wall : Timestamp) (memory : Memory) (call : Call) :
    (call.on faults wall memory).users = memory.users := by
  rw [on_eq]
  split
  · rfl
  · cases call <;> rfl

section Frame

variable (recorder : Recorder) (wall : Timestamp) (storage : Storage)

theorem work_frame :
    (work wall recorder storage).2.memory.users = storage.memory.users ∧
      (work wall recorder storage).2.installed = storage.installed := by
  rw [work_eq]
  split
  · exact ⟨rfl, rfl⟩
  · exact ⟨rfl, rfl⟩
  · refine ⟨?_, rfl⟩
    exact List.foldlRecOn (motive := fun memory : Memory => memory.users = storage.memory.users)
      _ _ rfl fun memory same call _ => (call.users_on _ wall memory).trans same

theorem workTimes_frame (count : Nat) :
    (workTimes wall count recorder storage).2.memory.users = storage.memory.users ∧
      (workTimes wall count recorder storage).2.installed = storage.installed := by
  induction count generalizing recorder storage with
  | zero => exact ⟨rfl, rfl⟩
  | succ count ih =>
    obtain ⟨users, installed⟩ := recorder.work_frame wall storage
    obtain ⟨usersLast, installedLast⟩ :=
      ih (work wall recorder storage).1 (work wall recorder storage).2
    exact ⟨usersLast.trans users, installedLast.trans installed⟩

/-- **The worker leaves the users alone, and the slot of the store.** -/
theorem drain_frame :
    (recorder.drain wall storage).2.memory.users = storage.memory.users ∧
      (recorder.drain wall storage).2.installed = storage.installed :=
  recorder.workTimes_frame wall storage _

end Frame

/-! ### The record of a player -/

variable (memory : Memory) (username : String)

theorem recordOrInitial_savePlayer (stats : Player) (wall : Timestamp) :
    (memory.savePlayer stats wall).recordOrInitial username =
      if username = stats.username then
        { memory.recordOrInitial username with
          stats
          gamesPlayed := (memory.recordOrInitial username).gamesPlayed + 1
          lastPlayed := some wall }
      else memory.recordOrInitial username := by
  rw [Memory.recordOrInitial, Memory.loadPlayer, Memory.savePlayer, Table.get?_insert]
  split
  · rename_i same
    rw [same]
    rfl
  · rfl

/-- A result touches no counters. -/
theorem recordOrInitial_saveResult (result : RoundResult) :
    ((memory.saveResult result).recordOrInitial username).stats =
        (memory.recordOrInitial username).stats ∧
      ((memory.saveResult result).recordOrInitial username).gamesPlayed =
        (memory.recordOrInitial username).gamesPlayed := by
  rw [Memory.recordOrInitial, Memory.loadPlayer, Memory.saveResult, Table.get?_modify]
  split
  · rename_i same
    rw [same, Memory.recordOrInitial, Memory.loadPlayer]
    cases memory.players.get? result.username <;> exact ⟨rfl, rfl⟩
  · exact ⟨rfl, rfl⟩

/-- The counters that a call brings for a player. -/
def Call.statsOf? (username : String) (call : Call) : Option Player :=
  call.stats?.filter fun stats => stats.username == username

/-- A round of a player is counted by the call. -/
def Call.counts (username : String) : Call → Bool
  | .savePlayer stats => stats.username == username
  | _ => false

theorem recordOrInitial_apply (wall : Timestamp) (call : Call) :
    ((call.apply wall memory).recordOrInitial username).stats =
        (call.statsOf? username).getD (memory.recordOrInitial username).stats ∧
      ((call.apply wall memory).recordOrInitial username).gamesPlayed =
        (memory.recordOrInitial username).gamesPlayed + (call.counts username).toNat := by
  cases call with
  | updateRanking stats =>
    simp only [Call.apply, memory.recordOrInitial_updateRanking username, Call.statsOf?,
      Call.stats?, Call.counts]
    by_cases same : username = stats.username
    · simp [same, Option.filter]
    · simp [same, Ne.symm same, Option.filter]
  | savePlayer stats =>
    simp only [Call.apply, recordOrInitial_savePlayer, Call.statsOf?, Call.stats?, Call.counts]
    by_cases same : username = stats.username
    · simp [same, Option.filter]
    · simp [same, Ne.symm same, Option.filter]
  | saveResult result => exact recordOrInitial_saveResult memory username result

/-- **After some calls the counters of a player are those that were brought last**, and as many
more rounds are counted as calls have counted one. -/
theorem stats_foldl (calls : List (Timestamp × Call)) :
    let last := calls.foldl (fun current entry => entry.2.apply entry.1 current) memory
    (last.recordOrInitial username).stats =
        (calls.filterMap fun entry => entry.2.statsOf? username).getLast?.getD
          (memory.recordOrInitial username).stats ∧
      (last.recordOrInitial username).gamesPlayed =
        (memory.recordOrInitial username).gamesPlayed +
          calls.countP fun entry => entry.2.counts username := by
  induction calls using List.reverseRecOn with
  | nil => exact ⟨rfl, rfl⟩
  | append_singleton calls entry ih =>
    obtain ⟨wall, call⟩ := entry
    simp only [List.foldl_append, List.foldl_cons, List.foldl_nil, recordOrInitial_apply,
      List.filterMap_append, List.countP_append, List.countP_singleton, ih]
    refine ⟨?_, ?_⟩
    · cases brought : call.statsOf? username <;> simp [brought]
    · rw [Nat.add_assoc]
      cases call.counts username <;> rfl

end TimedQuiz.Recorder
