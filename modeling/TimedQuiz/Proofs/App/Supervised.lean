/-
**Degraded mode tells the truth.**

The application is degraded whenever no store is installed, and otherwise only while an attempt to
revive the connection has failed and none has succeeded yet.

* `Steady`: requests, time and streams touch neither the flag nor the slot of the store, and
  broadcast nothing about either.
* `Supervised.Mirrored`: the application stands as its supervisor believes.
* `truth_of_run`: so whatever a run brings, the flag, the slot and the broadcasts agree.
-/

import TimedQuiz.App.Supervised
import TimedQuiz.Proofs.App.Across
import TimedQuiz.Proofs.Recorder.Call
import TimedQuiz.Proofs.Supervisor

namespace TimedQuiz

/-! ### Services leave the slot alone -/

namespace Service

open Store

variable {α β : Type}

/-- The service neither installs a store nor takes one away. -/
def Stays (service : Service α) : Prop :=
  ∀ storage, (service.on storage).2.installed = storage.installed

namespace Stays

theorem of_reads {service : Service α} (reads : Reads service) : Stays service :=
  fun storage => congrArg Storage.installed (reads storage)

theorem bind {first : Service α} {next : α → Service β} (stays : Stays first)
    (later : ∀ value, Stays (next value)) : Stays (first >>= next) := by
  intro storage
  have same := stays storage
  rw [on_bind]
  generalize first.on storage = outcome at same ⊢
  rcases outcome with ⟨trouble | value, after⟩
  · exact same
  · exact (later value after).trans same

theorem call (request : Memory → Except Failure α × Memory) : Stays (Service.call request) := by
  intro storage
  rw [on_call]

theorem attempt (request : Memory → Except Failure Unit × Memory) :
    Stays (Service.attempt request) := fun _ => rfl

end Stays
end Service

namespace Account

open Service (Reads Stays)

variable (wall : Timestamp) (credentials : Credentials)

theorem register_stays : Stays (register wall credentials) := by
  refine .bind (.of_reads .requireStore) fun faults => .bind (.call _) fun fresh => ?_
  split
  · exact .bind (.call _) fun record => .of_reads (.pure _)
  · exact .of_reads (.throw _)

theorem authenticate_stays : Stays (authenticate wall credentials) := by
  refine .bind (.of_reads .requireStore) fun faults => .bind (.call _) fun user => ?_
  split
  · exact .bind (.attempt _) fun _ => .bind (.call _) fun record => .of_reads (.pure _)
  · exact .of_reads (.throw _)

end Account

/-! ### What is broadcast -/

namespace Feed.Message

/-- The message tells of a change between normal and degraded operation. -/
def isStatus (message : Message) : Bool := message.event == some "system_status"

theorem isStatus_ofEvent (wall : Timestamp) (event : Event) :
    (ofEvent wall event).isStatus = false := by
  cases event <;> simp [ofEvent, named, isStatus]

theorem isStatus_ofCue (cue : Cue) : (ofCue cue).isStatus = false := by
  simp [ofCue, named, isStatus]

theorem isStatus_systemStatus (degraded : Bool) : (systemStatus degraded).isStatus = true := by
  simp [systemStatus, named, isStatus]

end Feed.Message

namespace App

open Feed (Message)

/-- What has been broadcast about changes between normal and degraded operation. -/
def statuses (app : App) : List Message := app.hub.sent.toList.filter Message.isStatus

theorem statuses_broadcast (app : App) (message : Message) :
    (app.broadcast message).statuses =
      app.statuses ++ if message.isStatus then [message] else [] := by
  rw [statuses, broadcast, Feed.Hub.broadcast, Array.toList_push, List.filter_append]
  cases told : message.isStatus <;> simp [told, statuses]

/-- Neither the flag nor the slot has been touched, and nothing has been broadcast about them. -/
structure Steady (app next : App) : Prop where
  degraded : next.degraded = app.degraded
  installed : next.storage.installed = app.storage.installed
  statuses : next.statuses = app.statuses

namespace Steady

theorem refl (app : App) : Steady app app := ⟨rfl, rfl, rfl⟩

theorem trans {first second third : App} (former : Steady first second)
    (latter : Steady second third) : Steady first third where
  degraded := latter.degraded.trans former.degraded
  installed := latter.installed.trans former.installed
  statuses := latter.statuses.trans former.statuses

theorem broadcast (app : App) {message : Message} (other : message.isStatus = false) :
    Steady app (app.broadcast message) := by
  refine ⟨rfl, rfl, ?_⟩
  rw [statuses_broadcast, other]
  exact List.append_nil _

theorem hear (wall : Timestamp) (event : Event) (app : App) (observer : Observer) :
    Steady app (hear wall event app observer) := by
  cases observer with
  | feed => exact broadcast app (Message.isStatus_ofEvent wall event)
  | recorder => exact ⟨rfl, rfl, rfl⟩
  | cues =>
    unfold App.hear
    dsimp only
    split
    · rename_i cue sound _
      have heard : Steady app { app with sound } := ⟨rfl, rfl, rfl⟩
      exact heard.trans (broadcast _ (Message.isStatus_ofCue cue))
    · exact ⟨rfl, rfl, rfl⟩

theorem tell (app : App) (entry : Span × Event) : Steady app (app.tell entry) := by
  have announced : Steady app (app.announce entry.1 entry.2) :=
    List.foldlRecOn _ _ (refl app) fun current steady registration _ =>
      steady.trans (hear _ entry.2 current registration.listener)
  exact announced.trans ⟨rfl, (Recorder.drain_frame ..).2, rfl⟩

theorem follow (app : App) (world : Coordinator.World) : Steady app (app.follow world) := by
  rw [follow_eq]
  exact List.foldlRecOn (motive := fun later : App => Steady app later) _ _ ⟨rfl, rfl, rfl⟩
    fun current steady entry _ => steady.trans (tell current entry)

theorem stored (app : App) {α : Type} {service : Service α} (stays : service.Stays) :
    Steady app (app.serveStored service).2 := ⟨rfl, stays app.storage, rfl⟩

theorem across : Across Steady where
  refl := refl
  trans := trans
  follow app _ _ := follow app _
  flush _ := ⟨rfl, (Recorder.drain_frame ..).2, rfl⟩
  authenticate app wall credentials := stored app (Account.authenticate_stays wall credentials)
  aside _ _ _ := ⟨rfl, rfl, rfl⟩

/-- **Nothing that comes from outside touches the flag or the slot.** -/
theorem receive (app : App) (input : Input) : Steady app (app.receive input) :=
  across.receive app input fun _ credentials _ _ =>
    stored app (Account.register_stays app.wall credentials)

end Steady
end App

/-! ### The application under its supervisor -/

namespace Supervised

open Feed (Message)
open Supervisor (Action)

/-- The application stands as its supervisor believes, and has broadcast every change. -/
structure Mirrored (app : App) (world : Supervisor.World) : Prop where
  degraded : app.degraded = world.degraded
  installed : app.storage.installed.isSome = world.installed
  statuses : app.statuses = world.changes.map Message.systemStatus

namespace Mirrored

variable {app next : App} {world : Supervisor.World}

theorem steady (mirrored : Mirrored app world) (steady : App.Steady app next) :
    Mirrored next world where
  degraded := steady.degraded.trans mirrored.degraded
  installed := (congrArg Option.isSome steady.installed).trans mirrored.installed
  statuses := steady.statuses.trans mirrored.statuses

theorem updateDegraded (mirrored : Mirrored app world) (value : Bool) :
    Mirrored (app.updateDegraded value) (world.setDegraded value) := by
  obtain ⟨degraded, installed, statuses⟩ := mirrored
  rw [App.updateDegraded, Supervisor.World.setDegraded, degraded]
  split
  · exact ⟨degraded, installed, statuses⟩
  · refine ⟨rfl, installed, ?_⟩
    rw [App.statuses_broadcast, Message.isStatus_systemStatus, if_pos rfl,
      Supervisor.World.changes, List.map_append, List.map_append]
    exact congrArg (· ++ [Message.systemStatus value]) statuses

/-- What the supervisor does, the application does. -/
theorem act (mirrored : Mirrored app world) (store : Store.Faults) (action : Action) :
    Mirrored (app.act store action) (world.perform action) := by
  obtain ⟨degraded, installed, statuses⟩ := mirrored
  cases action with
  | install =>
    have filled : Mirrored { app with storage := { app.storage with installed := some store } }
        { world with installed := true } := ⟨degraded, rfl, statuses⟩
    exact filled.updateDegraded false
  | remove =>
    have emptied : Mirrored { app with storage := { app.storage with installed := none } }
        { world with installed := false } := ⟨degraded, rfl, statuses⟩
    exact emptied.updateDegraded true
  | setDegraded value => exact updateDegraded ⟨degraded, installed, statuses⟩ value

theorem acts (mirrored : Mirrored app world) (store : Store.Faults) (actions : List Action) :
    Mirrored (actions.foldl (App.act store) app)
      (actions.foldl Supervisor.World.perform world) := by
  induction actions generalizing app world with
  | nil => exact mirrored
  | cons action rest ih => exact ih (mirrored.act store action)

theorem wake (mirrored : Mirrored app world) (store : Store.Faults) :
    Mirrored ((Supervised.mk app world).wake store).app world.wake := by
  obtain ⟨installed, degraded, changes, -⟩ := world.makeCall_frame
  have asked : Mirrored app world.makeCall.2 :=
    { degraded := mirrored.degraded.trans degraded.symm
      installed := mirrored.installed.trans installed.symm
      statuses := by rw [changes]; exact mirrored.statuses }
  have acted := asked.acts store (world.supervisor.step world.makeCall.1).2.1
  exact ⟨acted.degraded, acted.installed, acted.statuses⟩

end Mirrored

/-- The supervisor is right about the application, and things stand as its stage says. -/
structure Sincere (whole : Supervised) : Prop where
  mirrored : Mirrored whole.app whole.supervisor
  truthful : whole.supervisor.Truthful

theorem Sincere.step {whole : Supervised} (sincere : whole.Sincere) (step : Step) :
    (whole.step step).Sincere := by
  cases step with
  | wake store => exact ⟨sincere.mirrored.wake store, sincere.truthful.wake⟩
  | receive input =>
    exact ⟨sincere.mirrored.steady (App.Steady.receive whole.app input), sincere.truthful⟩

/-- The application of some settings, under a supervisor whose attempts to connect are scripted. -/
def ofSettings (settings : Settings) (script : Coordinator.Script) (epoch : Timestamp)
    (connections : List (Option Supervisor.Connection)) : Supervised :=
  start { App.ofSettings settings script with epoch } connections

theorem sincere_of_run (settings : Settings) (script : Coordinator.Script) (epoch : Timestamp)
    (connections : List (Option Supervisor.Connection)) (steps : List Step) :
    ((ofSettings settings script epoch connections).run steps).Sincere := by
  refine List.foldlRecOn (motive := Sincere) _ _ ?_ fun _ sincere step _ => sincere.step step
  exact ⟨⟨rfl, rfl, rfl⟩, .initial connections⟩

/-- **Degraded mode tells the truth.** However the attempts to connect, the health checks and the
attempts to revive a connection end, and whatever comes from outside in between: without a store the
application is degraded; with one it is degraded only in an episode in which at least one attempt
has failed since the health check that did, and none has succeeded; a store is taken away only after
a failed health check and three failed attempts in a row. Every change of the flag is broadcast and
nothing else about it, so the broadcasts alternate, and the last one says what holds. -/
theorem truth_of_run (settings : Settings) (script : Coordinator.Script) (epoch : Timestamp)
    (connections : List (Option Supervisor.Connection)) (steps : List Step) :
    let whole := (ofSettings settings script epoch connections).run steps
    let app := whole.app
    let stage := whole.supervisor.supervisor.stage
    let outcomes := whole.supervisor.outcomes
    (app.degraded = false → app.storage.installed.isSome = true) ∧
      (app.degraded = true → app.storage.installed.isSome = true →
        ∃ failures, stage.failures? = some failures ∧ 1 ≤ failures ∧
          failures ≤ Supervisor.reconnectLimit ∧ Supervisor.episode failures <:+ outcomes) ∧
      (∀ step, app.storage.installed.isSome = true →
        (whole.step step).app.storage.installed = none →
        Supervisor.episode 3 <:+ outcomes) ∧
      ∃ changes : List Bool, app.statuses = changes.map Message.systemStatus ∧
        (true :: changes).IsChain (· ≠ ·) ∧
        (true :: changes).getLast? = some app.degraded := by
  intro whole app stage outcomes
  have sincere : whole.Sincere := sincere_of_run settings script epoch connections steps
  have degraded : app.degraded = stage.isDegraded :=
    sincere.mirrored.degraded.trans sincere.truthful.degraded
  have installed : app.storage.installed.isSome = stage.hasStore :=
    sincere.mirrored.installed.trans sincere.truthful.installed
  refine ⟨fun healthy => ?_, fun flagged present => ?_, fun step present gone => ?_, ?_⟩
  · rw [installed]
    exact Supervisor.Stage.hasStore_of_not_degraded (degraded.symm.trans healthy)
  · obtain ⟨failures, on, some⟩ := Supervisor.Stage.failures_of_degraded
      (degraded.symm.trans flagged) (installed.symm.trans present)
    exact ⟨failures, on, some, sincere.truthful.recounts.of_failures on⟩
  · cases step with
    | receive input =>
      have same := (App.Steady.receive app input).installed
      rw [same.symm.trans gone] at present
      cases present
    | wake store =>
      have after : whole.supervisor.wake.installed = false :=
        ((sincere.step (.wake store)).mirrored.installed.symm.trans (congrArg _ gone) :)
      have last := sincere.truthful.giveUp_of_removed
        (sincere.mirrored.installed.symm.trans present) after
      exact (sincere.truthful.recounts.of_failures (congrArg _ last)).2
  · refine ⟨whole.supervisor.changes, sincere.mirrored.statuses,
      sincere.truthful.announced.alternate, ?_⟩
    rw [sincere.mirrored.degraded]
    exact sincere.truthful.announced.latest

end Supervised
end TimedQuiz
