/-
**The supervisor keeps the flag in step with the store.**

What the supervisor has done to the application can be read off its stage:

* `Stage.hasStore`, `Stage.isDegraded`: whether a store is installed, and whether the application
  is degraded, at each stage.
* `Stage.failures?`: how many attempts to revive the connection have failed since the health check
  that did.
* `World.Truthful`: the slot, the flag, the calls and the announcements are as the stage says.
* `World.Truthful.wake`: whenever the supervisor goes on, it keeps this.
-/

import Mathlib.Data.List.Chain
import TimedQuiz.Supervisor

namespace TimedQuiz.Supervisor

/-! ### What a stage says -/

namespace Stage

/-- A store is installed. -/
def hasStore : Stage → Bool
  | connect => false
  | _ => true

/-- The application is degraded. -/
def isDegraded : Stage → Bool
  | connect => true
  | health => false
  | reconnect attempt _ => decide (0 < attempt)
  | giveUp => true

/-- How many attempts to revive the connection have failed in the episode that is on. -/
def failures? : Stage → Option Nat
  | reconnect attempt _ => some attempt
  | giveUp => some reconnectLimit
  | _ => none

/-- The call that is made next. -/
def call? : Stage → Option Call
  | connect => some .connect
  | health => some .health
  | reconnect _ _ => some .reconnect
  | giveUp => none

theorem hasStore_of_not_degraded {stage : Stage} (healthy : stage.isDegraded = false) :
    stage.hasStore = true := by
  cases stage <;> first | rfl | cases healthy

/-- With a store, the application is degraded only after a failed attempt to revive the
connection. -/
theorem failures_of_degraded {stage : Stage} (degraded : stage.isDegraded = true)
    (store : stage.hasStore = true) :
    ∃ failures, stage.failures? = some failures ∧ 1 ≤ failures := by
  cases stage with
  | connect => cases store
  | health => cases degraded
  | reconnect attempt wait => exact ⟨attempt, rfl, of_decide_eq_true degraded⟩
  | giveUp => exact ⟨reconnectLimit, rfl, by decide⟩

end Stage

/-- An episode: a health check that fails and some attempts, none of which revives the
connection. -/
def episode (failures : Nat) : List (Call × Bool) :=
  (.health, false) :: List.replicate failures (.reconnect, false)

theorem episode_succ (failures : Nat) :
    episode (failures + 1) = episode failures ++ [(.reconnect, false)] := by
  rw [episode, List.replicate_succ', ← List.cons_append]
  rfl

namespace World

/-- The calls made, and whether they succeeded. -/
def outcomes (world : World) : List (Call × Bool) := world.calls.map Prod.snd

/-- The values announced for the degraded flag. -/
def changes (world : World) : List Bool := world.announced.map Prod.snd

/-! ### A step in parts -/

/-- The call that is made is noted with the time and its outcome. -/
theorem calls_makeCall (world : World) :
    world.makeCall.2.calls = world.calls ++
      (world.supervisor.stage.call?.map fun call =>
        (world.wakesAt, call, world.makeCall.1)).toList := by
  obtain ⟨⟨stage, delay⟩, wakesAt, connections, current, installed, degraded, calls, announced⟩ :=
    world
  cases stage with
  | connect => rcases connections with _ | ⟨_ | connection, later⟩ <;> rfl
  | health => rfl
  | reconnect attempt wait => rfl
  | giveUp => exact (List.append_nil _).symm

/-- A call does nothing to the application. -/
theorem makeCall_frame (world : World) :
    world.makeCall.2.installed = world.installed ∧ world.makeCall.2.degraded = world.degraded ∧
      world.makeCall.2.changes = world.changes ∧
      world.makeCall.2.outcomes = world.outcomes ++
        (world.supervisor.stage.call?.map fun call => (call, world.makeCall.1)).toList := by
  have outcomes : world.makeCall.2.outcomes = world.outcomes ++
      (world.supervisor.stage.call?.map fun call => (call, world.makeCall.1)).toList := by
    rw [World.outcomes, calls_makeCall, List.map_append]
    cases world.supervisor.stage.call? <;> rfl
  obtain ⟨⟨stage, delay⟩, wakesAt, connections, current, installed, degraded, calls, announced⟩ :=
    world
  cases stage with
  | connect =>
    rcases connections with _ | ⟨_ | connection, later⟩ <;> exact ⟨rfl, rfl, rfl, outcomes⟩
  | _ => exact ⟨rfl, rfl, rfl, outcomes⟩

@[simp]
theorem degraded_setDegraded (world : World) (value : Bool) :
    (world.setDegraded value).degraded = value := by
  unfold setDegraded
  split
  · assumption
  · rfl

@[simp]
theorem installed_setDegraded (world : World) (value : Bool) :
    (world.setDegraded value).installed = world.installed := by
  unfold setDegraded
  split <;> rfl

@[simp]
theorem calls_setDegraded (world : World) (value : Bool) :
    (world.setDegraded value).calls = world.calls := by
  unfold setDegraded
  split <;> rfl

/-- Only a change is announced. -/
theorem changes_setDegraded (world : World) (value : Bool) :
    (world.setDegraded value).changes =
      world.changes ++ if world.degraded = value then [] else [value] := by
  unfold setDegraded
  split
  · exact (List.append_nil _).symm
  · exact List.map_append

/-- Actions make no calls. -/
theorem calls_perform (world : World) (action : Action) :
    (world.perform action).calls = world.calls := by
  cases action <;> exact calls_setDegraded _ _

theorem calls_foldl (world : World) (actions : List Action) :
    (actions.foldl perform world).calls = world.calls :=
  List.foldlRecOn (motive := fun later : World => later.calls = world.calls) actions perform rfl
    fun later same action _ => (later.calls_perform action).trans same

/-- Whenever the supervisor goes on, the call that it makes is noted. -/
theorem calls_wake (world : World) :
    world.wake.calls = world.calls ++
      (world.supervisor.stage.call?.map fun call =>
        (world.wakesAt, call, world.makeCall.1)).toList :=
  (calls_foldl _ _).trans world.calls_makeCall

/-! ### Announcements -/

/-- The announcements start from degraded mode, each says the opposite of the one before, and the
last one says what holds. -/
structure Announced (changes : List Bool) (degraded : Bool) : Prop where
  alternate : (true :: changes).IsChain (· ≠ ·)
  latest : (true :: changes).getLast? = some degraded

/-- An announcement of the opposite may follow. -/
theorem Announced.change {changes : List Bool} {degraded : Bool}
    (announced : Announced changes degraded) {value : Bool} (changed : degraded ≠ value) :
    Announced (changes ++ [value]) value where
  alternate := by
    rw [← List.cons_append, List.isChain_append]
    refine ⟨announced.alternate, .singleton _, ?_⟩
    intro last isLast first isFirst
    rw [announced.latest] at isLast
    cases isLast
    cases isFirst
    exact changed
  latest := by
    rw [← List.cons_append]
    exact List.getLast?_concat

theorem Announced.setDegraded (world : World)
    (announced : Announced world.changes world.degraded) (value : Bool) :
    Announced (world.setDegraded value).changes (world.setDegraded value).degraded := by
  rw [changes_setDegraded, degraded_setDegraded]
  split
  · rename_i same
    rw [List.append_nil]
    exact same ▸ announced
  · rename_i changed
    exact announced.change changed

theorem Announced.perform {world : World} (announced : Announced world.changes world.degraded)
    (action : Action) :
    Announced (world.perform action).changes (world.perform action).degraded := by
  cases action with
  | install => exact setDegraded { world with installed := true } announced false
  | remove => exact setDegraded { world with installed := false } announced true
  | setDegraded value => exact announced.setDegraded world value

theorem Announced.foldl {world : World} (announced : Announced world.changes world.degraded)
    (actions : List Action) :
    Announced (actions.foldl World.perform world).changes
      (actions.foldl World.perform world).degraded :=
  List.foldlRecOn (motive := fun world : World => Announced world.changes world.degraded) actions
    World.perform announced fun _ announced action _ => announced.perform action

/-! ### The stage tells how things stand -/

theorem afterAttempt_stands (attempt : Nat) (delay : Delay) :
    (afterAttempt attempt delay).hasStore = true ∧
      (afterAttempt attempt delay).isDegraded = true := by
  unfold afterAttempt
  split
  · exact ⟨rfl, decide_eq_true (Nat.succ_pos attempt)⟩
  · exact ⟨rfl, rfl⟩

/-- **What a step does to the application is what its next stage says.** -/
theorem stands_step (supervisor : Supervisor) (success : Bool) {asked : World}
    (installed : asked.installed = supervisor.stage.hasStore)
    (degraded : asked.degraded = supervisor.stage.isDegraded) :
    let later := (supervisor.step success).2.1.foldl perform asked
    later.installed = (supervisor.step success).1.stage.hasStore ∧
      later.degraded = (supervisor.step success).1.stage.isDegraded := by
  obtain ⟨stage, delay⟩ := supervisor
  have set (value : Bool) : (asked.setDegraded value).installed = stage.hasStore :=
    (asked.installed_setDegraded value).trans installed
  cases stage with
  | connect =>
    cases success with
    | true => exact ⟨installed_setDegraded _ _, degraded_setDegraded _ _⟩
    | false => exact ⟨installed, degraded⟩
  | health =>
    cases success with
    | true => exact ⟨set false, degraded_setDegraded _ _⟩
    | false => exact ⟨installed, degraded⟩
  | reconnect attempt wait =>
    cases success with
    | true => exact ⟨set false, degraded_setDegraded _ _⟩
    | false =>
      obtain ⟨store, flag⟩ := afterAttempt_stands attempt wait
      simp only [Supervisor.step, store, flag]
      -- The first failure sets the flag; at a later one it is set already.
      split
      · exact ⟨set true, degraded_setDegraded _ _⟩
      · rename_i later
        exact ⟨installed, degraded.trans (decide_eq_true (Nat.pos_of_ne_zero later))⟩
  | giveUp => exact ⟨installed_setDegraded _ _, degraded_setDegraded _ _⟩

/-- Only giving up leads from a stage with a store to one without. -/
theorem giveUp_of_step {supervisor : Supervisor} {success : Bool}
    (before : supervisor.stage.hasStore = true)
    (after : (supervisor.step success).1.stage.hasStore = false) :
    supervisor.stage = .giveUp := by
  obtain ⟨stage, delay⟩ := supervisor
  cases stage with
  | connect => cases before
  | health => cases success <;> cases after
  | reconnect attempt wait =>
    cases success with
    | true => cases after
    | false => exact absurd ((afterAttempt_stands attempt wait).1.symm.trans after) (by decide)
  | giveUp => rfl

/-- The calls end with the episode that is on, if one is. -/
def Recounts (outcomes : List (Call × Bool)) : Stage → Prop
  | .reconnect attempt _ => attempt < reconnectLimit ∧ episode attempt <:+ outcomes
  | .giveUp => episode reconnectLimit <:+ outcomes
  | _ => True

theorem Recounts.of_failures {outcomes : List (Call × Bool)} {stage : Stage}
    (recounts : Recounts outcomes stage) {failures : Nat}
    (on : stage.failures? = some failures) :
    failures ≤ reconnectLimit ∧ episode failures <:+ outcomes := by
  cases stage with
  | connect => cases on
  | health => cases on
  | reconnect attempt wait =>
    cases on
    exact ⟨Nat.le_of_lt recounts.1, recounts.2⟩
  | giveUp =>
    cases on
    exact ⟨Nat.le_refl _, recounts⟩

/-- An episode begins with a health check that fails, and goes on with every attempt that does. -/
theorem Recounts.step {supervisor : Supervisor} {outcomes : List (Call × Bool)}
    (recounts : Recounts outcomes supervisor.stage) (success : Bool) :
    Recounts (outcomes ++ (supervisor.stage.call?.map fun call => (call, success)).toList)
      (supervisor.step success).1.stage := by
  obtain ⟨stage, delay⟩ := supervisor
  cases stage with
  | connect => cases success <;> trivial
  | health =>
    cases success with
    | true => trivial
    | false => exact ⟨by decide, List.suffix_append _ _⟩
  | reconnect attempt wait =>
    cases success with
    | true => trivial
    | false =>
      obtain ⟨below, earlier, parts⟩ := recounts
      have grown : episode (attempt + 1) <:+ outcomes ++ [(.reconnect, false)] :=
        ⟨earlier, by rw [episode_succ, ← List.append_assoc, parts]⟩
      simp only [Supervisor.step, afterAttempt]
      split
      · rename_i more
        exact ⟨more, grown⟩
      · rename_i last
        have all : attempt + 1 = reconnectLimit := Nat.le_antisymm below (Nat.not_lt.mp last)
        rw [all] at grown
        exact grown
  | giveUp => trivial

/-- How things stand is what the stage says, and what has been announced is true. -/
structure Truthful (world : World) : Prop where
  installed : world.installed = world.supervisor.stage.hasStore
  degraded : world.degraded = world.supervisor.stage.isDegraded
  recounts : Recounts world.outcomes world.supervisor.stage
  announced : Announced world.changes world.degraded

namespace Truthful

variable {world : World}

theorem initial (connections : List (Option Connection)) : Truthful { connections } where
  installed := rfl
  degraded := rfl
  recounts := trivial
  announced := ⟨.singleton _, rfl⟩

/-- **Whenever the supervisor goes on, things stand as its next stage says.** -/
theorem wake (truthful : Truthful world) : Truthful world.wake := by
  obtain ⟨installed, degraded, changes, outcomes⟩ := world.makeCall_frame
  rw [truthful.installed] at installed
  rw [truthful.degraded] at degraded
  have announced : Announced world.makeCall.2.changes world.makeCall.2.degraded := by
    rw [changes, world.makeCall_frame.2.1]
    exact truthful.announced
  obtain ⟨store, flag⟩ := stands_step world.supervisor world.makeCall.1 installed degraded
  have made : world.wake.outcomes = world.makeCall.2.outcomes :=
    congrArg (List.map Prod.snd) (calls_foldl _ _)
  refine ⟨store, flag, ?_, announced.foldl _⟩
  rw [made, outcomes]
  exact truthful.recounts.step world.makeCall.1

/-- A store is taken away only when the attempts to revive its connection are used up. -/
theorem giveUp_of_removed (truthful : Truthful world) (before : world.installed = true)
    (after : world.wake.installed = false) : world.supervisor.stage = .giveUp := by
  rw [truthful.installed] at before
  rw [truthful.wake.installed, supervisor_wake] at after
  exact giveUp_of_step before after

end Truthful
end World
end TimedQuiz.Supervisor
