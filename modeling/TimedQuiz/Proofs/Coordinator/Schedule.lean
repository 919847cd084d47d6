/-
**What happens by itself.**

On the exact clock, work comes due and commands are handled without anybody asking.

* `Lasting`: a property of the coordinator and its log that outlasts every command but a request.
* `World.Going`: the world has such a property, and nothing under way or waiting makes a request.
* `Going.settle`, `Going.sleep`: then it keeps the property, however long nobody asks.
* `Going.request`: a request keeps the property if the handling of the request does.
* `log_request`, `log_sleep`: the log only grows, whatever the world.
-/

import TimedQuiz.Coordinator.Schedule
import TimedQuiz.Proofs.Coordinator.Trail

namespace TimedQuiz.Coordinator

variable {timings : Timings} {holds : Coordinator → List (Span × Event) → Prop}

/-- What was handled at an instant is added to a log. -/
def logged (timings : Timings) (now : Span) (c : Coordinator) (log : List (Span × Event))
    (command : Command) : List (Span × Event) :=
  log ++ (published (c.handle timings (.still now) command).2.2).map (now, ·)

/-- Every command but a request keeps the property. -/
def Lasting (timings : Timings) (holds : Coordinator → List (Span × Event) → Prop) : Prop :=
  ∀ (now : Span) (c : Coordinator) (log : List (Span × Event)) (command : Command),
    command.isRequest = false → holds c log →
      holds (c.handle timings (.still now) command).2.1 (logged timings now c log command)

namespace World

/-- The world has the property, and nothing under way or waiting makes a request. -/
structure Going (holds : Coordinator → List (Span × Event) → Prop) (world : World) : Prop where
  belongs : world.BelongsTo fun _ => True
  unasked : ∀ command ∈ world.mailbox, command.isRequest = false
  kept : holds world.coordinator world.log

/-- What work sends when it comes due is no request. -/
theorem unasked_fire (world : World) {task : Task} (own : task.job.BelongsTo fun _ => True)
    (outcome : Option Puzzle) {command : Command}
    (waits : command ∈ (world.fire timings task outcome).mailbox) :
    command ∈ world.mailbox ∨ command.isRequest = false := by
  have sent {former : List Command} {last : Command} (news : last.isRequest = false)
      (member : command ∈ former ++ [last]) : command ∈ former ∨ command.isRequest = false := by
    rcases List.mem_append.mp member with old | new
    · exact Or.inl old
    · rw [List.mem_singleton.mp new]
      exact Or.inr news
  obtain ⟨ticket, since, job⟩ := task
  cases job with
  | fetch of call => exact sent rfl waits
  | countDown of clock due =>
    simp only [fire] at waits
    split at waits
    · rcases sent rfl waits with told | news
      · exact sent rfl told
      · exact Or.inr news
    · exact sent rfl waits
  | reminder due command =>
    cases command with
    | retryDue of => exact sent rfl waits
    | followUpDue of sequence => exact sent rfl waits
    | _ => exact own.elim

/-- The events after a command. -/
theorem events_handle (world : World) (command : Command) :
    (world.handle timings command).2.log.map Prod.snd =
      world.log.map Prod.snd ++
        published (world.coordinator.handle timings (.still world.now) command).2.2 := by
  rw [handle, handleSlowly, log_foldl_perform, List.map_append, List.map_map]
  exact congrArg _ (List.map_id _)

/-- To handle a command is to carry out what the coordinator does: the mailbox is left alone. -/
theorem handle_frame (timings : Timings) (world : World) (command : Command) :
    (world.handle timings command).2.mailbox = world.mailbox ∧
      (world.handle timings command).2.coordinator =
        (world.coordinator.handle timings (.still world.now) command).2.1 := by
  obtain ⟨mailbox, coordinator, -⟩ := foldl_perform_frame
    (world.coordinator.handle timings (.still world.now) command).2.2
    { world with coordinator := (world.coordinator.handle timings (.still world.now) command).2.1 }
  exact ⟨mailbox, coordinator⟩

/-- What a command sets going belongs to the rounds as well. -/
theorem BelongsTo.handle {world : World} (belongs : world.BelongsTo fun _ => True)
    (command : Command) : (world.handle timings command).2.BelongsTo fun _ => True := by
  let begun : World :=
    { world with
      coordinator := (world.coordinator.handle timings (.still world.now) command).2.1 }
  refine handle_holds (fun _ done => (done.foldl perform begun).BelongsTo fun _ => True) ?_
    command ⟨belongs.tasks, belongs.mailbox⟩
  intro arrival c next done effects move before
  rw [List.foldl_append]
  exact move.belongsTo before fun _ => trivial

namespace Going

variable {world : World}

/-- The clock has no part in this, nor have the calls of the source. -/
theorem wait (going : world.Going holds) (now : Span) : ({ world with now } : World).Going holds :=
  ⟨⟨going.belongs.tasks, going.belongs.mailbox⟩, going.unasked, going.kept⟩

theorem fire (going : world.Going holds) {task : Task} (own : task.job.BelongsTo fun _ => True)
    (outcome : Option Puzzle) : (world.fire timings task outcome).Going holds where
  belongs := going.belongs.fire timings own outcome
  unasked command waits := (world.unasked_fire own outcome waits).elim (going.unasked command) id
  kept := by
    rw [log_fire, (fire_frame timings world task outcome).1]
    exact going.kept

/-- A command is handled at once, and the property holds of the outcome. -/
theorem handled (going : world.Going holds) {command : Command}
    (after : holds (world.coordinator.handle timings (.still world.now) command).2.1
      (logged timings world.now world.coordinator world.log command)) :
    (world.handle timings command).2.Going holds := by
  obtain ⟨mailbox, coordinator⟩ := world.handle_frame timings command
  refine ⟨going.belongs.handle command, ?_, ?_⟩
  · rw [mailbox]
    exact going.unasked
  · rw [coordinator, handle, handleSlowly, log_foldl_perform]
    exact after

variable (lasting : Lasting timings holds)
include lasting

/-- All due work is done, and then all commands are handled. -/
theorem pass (going : world.Going holds) (script : Script) :
    (world.pass timings script).Going holds := by
  let fired := (world.dueTasks timings script).foldl
    (fun current task => current.fire timings task (outcomeOf script world.now task)) world
  have goingFired : fired.Going holds := by
    refine List.foldlRecOn _ _ going fun current goes task due => ?_
    -- The work is fired as it was when the pass began, whatever else has been fired since.
    have member : task ∈ world.tasks := by
      rw [dueTasks, List.mem_mergeSort] at due
      exact (List.mem_filter.mp due).1
    exact goes.fire (going.belongs.tasks task member) _
  refine List.foldlRecOn fired.mailbox _ ?_ fun current goes command waits => ?_
  · exact ⟨⟨goingFired.belongs.tasks, fun _ impossible => by cases impossible⟩,
      fun _ impossible => (by cases impossible), goingFired.kept⟩
  · exact goes.handled (lasting _ _ _ command (goingFired.unasked command waits) goes.kept)

theorem settle (going : world.Going holds) (script : Script) :
    (world.settle timings script).Going holds := by
  unfold World.settle
  generalize passBound script world = bound
  induction bound generalizing world with
  | zero => exact going
  | succ bound ih =>
    rw [settleWithin]
    split
    · exact going
    · exact ih (going.pass lasting script)

/-- **A request keeps the property if the handling of the request does.** -/
theorem request (going : world.Going holds) (script : Script) {command : Command}
    (after : holds (world.coordinator.handle timings (.still world.now) command).2.1
      (logged timings world.now world.coordinator world.log command)) :
    (world.request timings script command).2.Going holds :=
  (going.handled after).settle lasting script

theorem sleepUntil (going : world.Going holds) (script : Script) (target now : Span) :
    (world.sleepUntil timings script target now).Going holds := by
  fun_induction World.sleepUntil timings script target now world with
  | case1 now world none => exact going.wait _
  | case2 now world due found instant reached later closer ih =>
    exact ih ((going.wait instant).settle lasting script)
  | case3 now world due found instant missed => exact going.wait _

/-- **However long nobody asks, the property is kept.** -/
theorem sleep (going : world.Going holds) (script : Script) (span : Span) :
    (world.sleep timings script span).Going holds :=
  going.sleepUntil lasting script _ _

end Going

/-! ### The log only grows -/

section Growth

variable (script : Script) (world : World)

theorem log_handle (command : Command) : world.log <+: (world.handle timings command).2.log := by
  rw [handle, handleSlowly, log_foldl_perform]
  exact List.prefix_append _ _

theorem log_pass : world.log <+: (world.pass timings script).log := by
  let fired := (world.dueTasks timings script).foldl
    (fun current task => current.fire timings task (outcomeOf script world.now task)) world
  have unfired : fired.log = world.log :=
    List.foldlRecOn (motive := fun current : World => current.log = world.log) _ _ rfl
      fun current same task _ => (log_fire timings current task _).trans same
  refine List.foldlRecOn (motive := fun current : World => world.log <+: current.log)
    fired.mailbox _ ?_ fun current grown command _ => grown.trans (current.log_handle command)
  exact unfired ▸ List.prefix_rfl

theorem log_settleWithin (bound : Nat) :
    world.log <+: (world.settleWithin timings script bound).log := by
  induction bound generalizing world with
  | zero => exact List.prefix_rfl
  | succ bound ih =>
    rw [settleWithin]
    split
    · exact List.prefix_rfl
    · exact (world.log_pass script).trans (ih _)

/-- **A request takes nothing back that was told.** -/
theorem log_request (command : Command) :
    world.log <+: (world.request timings script command).2.log :=
  (world.log_handle command).trans (log_settleWithin script _ _)

theorem log_sleepUntil (target now : Span) :
    world.log <+: (world.sleepUntil timings script target now).log := by
  fun_induction World.sleepUntil timings script target now world with
  | case1 now world none => exact List.prefix_rfl
  | case2 now world due found instant reached later closer ih =>
    exact (log_settleWithin script { world with now := instant } _).trans ih
  | case3 now world due found instant missed => exact List.prefix_rfl

theorem log_sleep (span : Span) : world.log <+: (world.sleep timings script span).log :=
  log_sleepUntil script world _ _

end Growth
end World
end TimedQuiz.Coordinator
