/-
**Runs on an exact clock, with fetches that follow a script.**

The source of puzzles follows a script that says, for each call, how long the answer takes and what
it is. Here nothing else is said about the order of what happens at one instant.

* `Scripted`: the steps of a run respect an exact clock and the script.
* `onTime_of_run`: in such a run no work is ever overdue.
-/

import TimedQuiz.Coordinator.Schedule
import TimedQuiz.Proofs.Coordinator.Countdown

namespace TimedQuiz.Coordinator

variable {timings : Timings} {script : Script}

/-! ### Answers of the source -/

namespace Attempt

/-- How long a fetch waits for the answer, which is no longer than the limit. -/
def latency (attempt : Attempt) (limit : Span) : Span :=
  match attempt.delay with
  | some delay => min delay limit
  | none => limit

/-- What a fetch brings: the answer, if it takes no longer than the limit. -/
def result (attempt : Attempt) (limit : Span) : Option Puzzle :=
  match attempt.delay with
  | some delay => if delay ≤ limit then attempt.outcome else none
  | none => none

end Attempt

/-- The answer that a fetch waits for. -/
def Task.attempt? (script : Script) (task : Task) : Option Attempt :=
  match task.job with
  | .fetch _ call => some (script.attempt call)
  | _ => none

namespace World

/-- A fetch comes due with its answer, or when it has taken too long. -/
theorem setDue_fetch (ticket since generation call : Nat) :
    setDue timings script { ticket, since, job := .fetch generation call } =
      since + (script.attempt call).latency timings.fetchTimeout := by
  simp only [setDue, Attempt.latency]
  cases (script.attempt call).delay <;> rfl

/-- Other work comes due when it says. -/
theorem setDue_of_due? {task : Task} {due : Span} (timed : task.job.due? = some due) :
    setDue timings script task = due := by
  obtain ⟨ticket, since, job⟩ := task
  cases job with
  | fetch of call => cases timed
  | countDown of clock instant => exact Option.some.inj timed
  | reminder instant command => exact Option.some.inj timed

/-- The step respects the script: a fetch completes at its time and with its answer, and no time at
which work comes due is passed over. -/
def Answered (timings : Timings) (script : Script) (world : World) : Step → Prop
  | .fire ticket outcome => ∀ task ∈ world.tasks, task.ticket = ticket →
      ∀ attempt ∈ task.attempt? script, setDue timings script task = world.now ∧
        outcome = attempt.result timings.fetchTimeout
  | .wait span => ∀ task ∈ world.tasks, world.now + span ≤ setDue timings script task
  | _ => True

instance (world : World) : DecidablePred (world.Answered timings script)
  | .ask _ => inferInstanceAs (Decidable True)
  | .deliver _ => inferInstanceAs (Decidable True)
  | .fire ticket outcome => inferInstanceAs (Decidable (∀ task ∈ world.tasks,
      task.ticket = ticket → ∀ attempt ∈ task.attempt? script,
        setDue timings script task = world.now ∧
          outcome = attempt.result timings.fetchTimeout))
  | .wait span => inferInstanceAs (Decidable (∀ task ∈ world.tasks,
      world.now + span ≤ setDue timings script task))

end World

/-- Every step of a run respects an exact clock and the script. -/
def Scripted (timings : Timings) (script : Script) (steps : List World.Step) : Prop :=
  EachAfter (fun before step => (World.run timings {} before).Exact step ∧
    (World.run timings {} before).Answered timings script step) steps

instance (steps : List World.Step) : Decidable (Scripted timings script steps) :=
  inferInstanceAs (Decidable (EachAfter _ steps))

theorem Scripted.punctual {steps : List World.Step} (scripted : Scripted timings script steps) :
    Punctual timings steps :=
  fun before step after split => (scripted before step after split).1

/-! ### Nothing is overdue -/

namespace World

/-- No work is overdue. -/
def OnTime (timings : Timings) (script : Script) (world : World) : Prop :=
  ∀ task ∈ world.tasks, world.now ≤ setDue timings script task

namespace OnTime

variable {world : World}

theorem spawn (onTime : world.OnTime timings script) {ticket : Nat} {job : Job}
    (later : world.now ≤ setDue timings script { ticket, since := world.now, job }) :
    (world.spawn ticket job).OnTime timings script := by
  intro task member
  rcases List.mem_append.mp member with old | new
  · exact onTime task old
  · rw [List.mem_singleton.mp new]
    exact later

theorem drop (onTime : world.OnTime timings script) (ticket : Nat) :
    (world.drop ticket).OnTime timings script :=
  fun task member => onTime task (List.mem_filter.mp member).1

/-- Work that is started comes due later. -/
theorem perform (onTime : world.OnTime timings script) (effect : Effect) :
    (world.perform effect).OnTime timings script := by
  cases effect with
  | publish event => exact onTime
  | fetch ticket generation =>
    have called : World.OnTime timings script
        { world with calls := world.calls ++ [world.now] } := onTime
    refine called.spawn ?_
    rw [setDue_fetch]
    exact Nat.le_add_right _ _
  | countDown ticket generation clock => exact onTime.spawn (Nat.le_refl _)
  | remind ticket delay command => exact onTime.spawn (Nat.le_add_right _ _)
  | cancel ticket => exact onTime.drop ticket

theorem foldl_perform (onTime : world.OnTime timings script) (effects : List Effect) :
    (effects.foldl World.perform world).OnTime timings script := by
  induction effects generalizing world with
  | nil => exact onTime
  | cons effect rest ih => exact ih (onTime.perform effect)

/-- A countdown that comes due at its time looks again later. -/
theorem fire (onTime : world.OnTime timings script) {task : Task}
    (present : ∀ due ∈ task.job.due?, due = world.now) (outcome : Option Puzzle) :
    (world.fire timings task outcome).OnTime timings script := by
  obtain ⟨ticket, since, job⟩ := task
  cases job with
  | fetch of call => exact onTime.drop ticket
  | reminder due command => exact onTime.drop ticket
  | countDown of clock due =>
    obtain rfl : due = world.now := present due rfl
    simp only [World.fire]
    split
    · exact onTime.drop ticket
    · intro other member
      obtain ⟨earlier, before, rfl⟩ := List.mem_map.mp member
      split
      · show world.now ≤ nextLook timings.tick world.now world.now
        rw [nextLook, if_pos (Nat.le_add_right _ _)]
        exact Nat.le_add_right _ _
      · exact onTime earlier before

/-- **No step makes work overdue.** -/
theorem step (onTime : world.OnTime timings script) {step : Step} (exact : world.Exact step)
    (answered : world.Answered timings script step) :
    (world.step timings step).OnTime timings script := by
  cases step with
  | ask request => exact onTime
  | deliver pauses =>
    obtain rfl : pauses = [] := exact
    simp only [World.step, deliver]
    split
    · exact onTime
    · rename_i command rest waiting
      rw [handleSlowly]
      refine foldl_perform ?_ _
      exact onTime
  | fire ticket outcome =>
    rw [World.step]
    split
    · rename_i task found
      have member := List.mem_of_find?_eq_some found
      have same : task.ticket = ticket := by simpa using List.find?_some found
      exact onTime.fire (exact task member same) outcome
    · exact onTime
  | wait span => exact answered

end OnTime
end World

theorem onTime_of_run {steps : List World.Step} (scripted : Scripted timings script steps) :
    (World.run timings {} steps).OnTime timings script := by
  induction steps using List.reverseRecOn with
  | nil => exact fun task impossible => by cases impossible
  | append_singleton steps step ih =>
    obtain ⟨exact, answered⟩ := scripted.last
    rw [World.run_concat]
    exact (ih scripted.init).step exact answered

end TimedQuiz.Coordinator
