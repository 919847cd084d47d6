/-
**Runs on an exact clock can go on.**

An exact clock may not pass over work that is due, so it has to be seen that it never gets stuck:
that at every instant everything there is to do is done after finitely many steps.

* `World.AtRest`: nothing is left to do at an instant.
* `World.weight`: how much can still be done at an instant. A retry that comes due may start a
  fetch, which may fail at once; but the next retry is then set for a later instant.
* `World.weight_deliver`, `World.weight_fire`: so with every step less is left to do, as long as
  nobody asks for anything.
* `exists_atRest`: a run can go on to every later instant and comes to rest there.
-/

import Mathlib.Algebra.Order.BigOperators.Group.List
import TimedQuiz.Proofs.Coordinator.Schedule
import TimedQuiz.Proofs.Coordinator.Scripted

namespace TimedQuiz.Coordinator

variable {timings : Timings} {script : Script}

/-! ### What can still be done at an instant -/

/-- How much can come of a waiting command at the same instant, itself included. A retry or a
follow-up may start a fetch, which may complete at once. -/
def Command.weight : Command → Nat
  | fetched _ _ => 1
  | retryDue _ => 3
  | followUpDue _ _ => 3
  | tick _ _ => 1
  | expired _ => 1
  | _ => 0

/-- How much can come of work that is due. -/
def Job.weight : Job → Nat
  | .fetch _ _ => 2
  | .countDown _ _ _ => 3
  | .reminder _ command => command.weight + 1

/-- How much can come of an effect at the same instant. -/
def Effect.weight : Effect → Nat
  | .fetch _ _ => 2
  | .countDown _ _ _ => 3
  | .remind _ delay command => if delay = 0 then command.weight + 1 else 0
  | _ => 0

namespace World

/-- Nothing is left to do at this instant. -/
def AtRest (timings : Timings) (script : Script) (world : World) : Prop :=
  world.mailbox = [] ∧ ∀ task ∈ world.tasks, world.now < setDue timings script task

instance (world : World) : Decidable (world.AtRest timings script) :=
  inferInstanceAs (Decidable (_ ∧ ∀ task ∈ world.tasks, world.now < setDue timings script task))

/-- How much can come of a piece of work at this instant. -/
def load (timings : Timings) (script : Script) (now : Span) (task : Task) : Nat :=
  if setDue timings script task ≤ now then task.job.weight else 0

/-- How much can still be done at this instant. -/
def weight (timings : Timings) (script : Script) (world : World) : Nat :=
  (world.tasks.map (load timings script world.now)).sum + (world.mailbox.map Command.weight).sum

variable (world : World)

theorem load_le (now : Span) (task : Task) : load timings script now task ≤ task.job.weight := by
  unfold load
  split
  · exact Nat.le_refl _
  · exact Nat.zero_le _

theorem weight_spawn (ticket : Nat) (job : Job) :
    (world.spawn ticket job).weight timings script =
      world.weight timings script +
        load timings script world.now { ticket, since := world.now, job } := by
  simp only [weight, spawn, List.map_append, List.sum_append, List.map_cons, List.map_nil,
    List.sum_cons, List.sum_nil]
  omega

theorem weight_post (command : Command) :
    (world.post command).weight timings script =
      world.weight timings script + command.weight := by
  simp only [weight, post, List.map_append, List.sum_append, List.map_cons, List.map_nil,
    List.sum_cons, List.sum_nil]
  omega

theorem weight_drop_le (ticket : Nat) :
    (world.drop ticket).weight timings script ≤ world.weight timings script := by
  refine Nat.add_le_add_right ?_ _
  exact (List.filter_sublist.map _).sum_le_sum fun _ _ => Nat.zero_le _

variable (timings script) in
theorem weight_perform_le (effect : Effect) :
    (world.perform effect).weight timings script ≤
      world.weight timings script + effect.weight := by
  cases effect with
  | publish event => exact Nat.le_refl _
  | fetch ticket generation =>
    refine Nat.le_trans (Nat.le_of_eq (weight_spawn ..)) ?_
    exact Nat.add_le_add_left (load_le ..) _
  | countDown ticket generation clock =>
    refine Nat.le_trans (Nat.le_of_eq (weight_spawn ..)) ?_
    exact Nat.add_le_add_left (load_le ..) _
  | remind ticket delay command =>
    refine Nat.le_trans (Nat.le_of_eq (weight_spawn ..)) (Nat.add_le_add_left ?_ _)
    simp only [Effect.weight]
    split
    · exact load_le ..
    · rename_i waits
      have later : world.now < world.now + delay :=
        Nat.lt_add_of_pos_right (Nat.pos_of_ne_zero waits)
      exact Nat.le_of_eq (if_neg (Nat.not_le_of_lt later))
  | cancel ticket => exact weight_drop_le world ticket

variable (timings script) in
theorem weight_foldl_perform_le (effects : List Effect) :
    (effects.foldl perform world).weight timings script ≤
      world.weight timings script + (effects.map Effect.weight).sum := by
  induction effects generalizing world with
  | nil => exact Nat.le_refl _
  | cons effect rest ih =>
    have first := world.weight_perform_le timings script effect
    have others := ih (world.perform effect)
    rw [List.foldl_cons, List.map_cons, List.sum_cons]
    omega

end World

/-! ### Every step does something -/

section Weight

variable {c : Coordinator}

theorem finish_weight (c : Coordinator) : (c.finish.2.2.map Effect.weight).sum = 0 := by
  refine List.sum_eq_zero fun weight member => ?_
  obtain ⟨effect, among, rfl⟩ := List.mem_map.mp member
  unfold finish at among
  split at among
  · rcases List.mem_append.mp among with cancel | last
    · obtain ⟨ticket, -, rfl⟩ := List.mem_map.mp cancel
      rfl
    · rw [List.mem_singleton.mp last]
      rfl
  · cases among

theorem requestNext_weight_le (now : Span) (c : Coordinator) :
    ((c.requestNext now).2.2.map Effect.weight).sum ≤ 2 := by
  unfold requestNext
  split_ifs
  · exact Nat.zero_le _
  · exact Nat.zero_le _
  · exact Nat.le_refl _
  · rw [finish_weight]
    exact Nat.zero_le _

/-- **What comes of a command weighs less than the command**, unless it is a request. -/
theorem handle_weight (backs : 0 < timings.retryDelay) (watch : Watch) (c : Coordinator)
    {command : Command} (timed : command.isRequest = false) :
    ((c.handle timings watch command).2.2.map Effect.weight).sum < command.weight := by
  cases command with
  | fetched of outcome =>
    simp only [handle, fetched]
    split_ifs
    · exact Nat.one_pos
    · cases outcome with
      | some puzzle => exact Nat.one_pos
      | none =>
        have later : (Effect.remind c.nextTicket timings.retryDelay (.retryDue of)).weight = 0 :=
          if_neg (Nat.ne_of_gt backs)
        rw [List.map_singleton, List.sum_singleton, later]
        exact Nat.one_pos
    · exact Nat.one_pos
  | retryDue of =>
    simp only [handle]
    split_ifs
    · exact Nat.lt_succ_of_le (requestNext_weight_le ..)
    · exact Nat.succ_pos _
  | followUpDue of sequence =>
    simp only [handle]
    split_ifs
    · exact Nat.lt_succ_of_le (requestNext_weight_le ..)
    · exact Nat.succ_pos _
  | tick of remaining =>
    simp only [handle]
    split_ifs <;> exact Nat.one_pos
  | expired of =>
    simp only [handle]
    split_ifs
    · rw [finish_weight]
      exact Nat.one_pos
    · exact Nat.one_pos
  | _ => cases timed

end Weight

namespace World

variable {world : World}

/-- Nobody waits for an answer. -/
def Unasked (world : World) : Prop := ∀ command ∈ world.mailbox, command.isRequest = false

theorem weight_deliver (backs : 0 < timings.retryDelay) (unasked : world.Unasked)
    (waiting : world.mailbox ≠ []) :
    (world.deliver timings []).weight timings script < world.weight timings script := by
  unfold deliver
  split
  · contradiction
  · rename_i command rest mailbox
    let handled := world.coordinator.handle timings { start := world.now } command
    let next : World := { world with mailbox := rest, coordinator := handled.2.1 }
    have timed := unasked command (mailbox ▸ List.mem_cons_self)
    have less : (handled.2.2.map Effect.weight).sum < command.weight :=
      handle_weight backs { start := world.now } world.coordinator timed
    have taken : world.weight timings script = next.weight timings script + command.weight := by
      rw [weight, mailbox, List.map_cons, List.sum_cons, Nat.add_comm command.weight,
        ← Nat.add_assoc]
      rfl
    have more := next.weight_foldl_perform_le timings script handled.2.2
    show (handled.2.2.foldl perform next).weight timings script < _
    omega

theorem unasked_deliver (unasked : world.Unasked) : (world.deliver timings []).Unasked := by
  unfold deliver
  split
  · exact unasked
  · rename_i command rest mailbox
    rw [Unasked, handleSlowly, (foldl_perform_frame _ _).1]
    exact fun other member => unasked other (mailbox ▸ List.mem_cons_of_mem _ member)

variable (timings script) in
/-- What is dropped no longer weighs. -/
theorem weight_drop {c : Coordinator} (sound : Sound c world) {task : Task}
    (member : task ∈ world.tasks) :
    world.weight timings script =
      load timings script world.now task + (world.drop task.ticket).weight timings script := by
  have sums := ((sound.perm_drop member).map (load timings script world.now)).sum_eq
  rw [List.map_cons, List.sum_cons] at sums
  rw [weight, sums, Nat.add_assoc]
  rfl

/-- Work that waits for a later instant does not weigh, just as if it had been dropped. -/
theorem weight_replace {c : Coordinator} (sound : Sound c world) {task : Task}
    (member : task ∈ world.tasks) {job : Job}
    (later : world.now < setDue timings script { ticket := task.ticket, since := world.now, job }) :
    (world.replace task.ticket job).weight timings script =
      (world.drop task.ticket).weight timings script := by
  let renew (other : Task) : Task :=
    if other.ticket = task.ticket then { ticket := task.ticket, since := world.now, job } else other
  have others : (world.drop task.ticket).tasks.map renew = (world.drop task.ticket).tasks := by
    refine (List.map_congr_left fun other among => ?_).trans (List.map_id _)
    exact if_neg (bne_iff_ne.mp (List.mem_filter.mp among).2)
  have sums := (((sound.perm_drop member).map renew).map (load timings script world.now)).sum_eq
  have idle : load timings script world.now (renew task) = 0 := by
    rw [show renew task = { ticket := task.ticket, since := world.now, job } from if_pos rfl]
    exact if_neg (Nat.not_le_of_lt later)
  rw [List.map_cons, others, List.map_cons, List.sum_cons, idle, Nat.zero_add] at sums
  exact congrArg (· + _) sums

/-- **What comes of work that is due weighs less than the work.** -/
theorem weight_fire {c : Coordinator} (sound : Sound c world) (ticks : 0 < timings.tick)
    {task : Task} (member : task ∈ world.tasks)
    (present : setDue timings script task = world.now) (outcome : Option Puzzle) :
    (world.fire timings task outcome).weight timings script < world.weight timings script := by
  have loaded : load timings script world.now task = task.job.weight :=
    if_pos (Nat.le_of_eq present)
  have whole := weight_drop timings script sound member
  rw [loaded] at whole
  obtain ⟨ticket, since, job⟩ := task
  cases job with
  | fetch of call =>
    simp only [fire, weight_post, Command.weight]
    simp only [Job.weight] at whole
    omega
  | reminder due command =>
    simp only [fire, weight_post]
    simp only [Job.weight] at whole
    omega
  | countDown of clock due =>
    obtain rfl : due = world.now := present
    let told := world.post (.tick of (clock.remaining world.now))
    let task : Task := { ticket, since, job := .countDown of clock world.now }
    have sound : Sound c told := sound.post _ fun _ impossible => by cases impossible
    have more : told.weight timings script = world.weight timings script + 1 := weight_post ..
    have rest : told.weight timings script =
        load timings script world.now task + (told.drop ticket).weight timings script :=
      weight_drop timings script sound member
    have three : load timings script world.now task = 3 := loaded
    simp only [fire]
    split
    · have last : ((told.drop ticket).post (.expired of)).weight timings script =
          (told.drop ticket).weight timings script + 1 := weight_post ..
      show ((told.drop ticket).post (.expired of)).weight timings script < _
      omega
    · let next : Job := .countDown of clock (nextLook timings.tick world.now world.now)
      have later : world.now <
          setDue timings script { ticket, since := world.now, job := next } := by
        show world.now < nextLook timings.tick world.now world.now
        rw [nextLook, if_pos (Nat.le_add_right _ _)]
        exact Nat.lt_add_of_pos_right ticks
      have again : (told.replace ticket next).weight timings script =
          (told.drop ticket).weight timings script := weight_replace sound member later
      show (told.replace ticket next).weight timings script < _
      omega

end World

/-! ### Runs can go on -/

/-- What the script lets a piece of work bring. -/
def Task.outcome (timings : Timings) (script : Script) (task : Task) : Option Puzzle :=
  (task.attempt? script).bind fun attempt => attempt.result timings.fetchTimeout

namespace World

variable {world : World} {c : Coordinator}

/-- The work that comes due is the work with the ticket. -/
theorem step_fire (sound : Sound c world) {task : Task} (member : task ∈ world.tasks)
    (outcome : Option Puzzle) :
    world.step timings (.fire task.ticket outcome) = world.fire timings task outcome := by
  rw [World.step]
  split
  · rename_i found first
    have same : found.ticket = task.ticket := by simpa using List.find?_some first
    rw [sound.eq_of_ticket member (List.mem_of_find?_eq_some first) same]
  · rename_i missing
    simpa using List.find?_eq_none.mp missing task member

/-- Work that is due may come due with what the script lets it bring. -/
theorem fire_allowed (sound : Sound c world) {task : Task} (member : task ∈ world.tasks)
    (present : setDue timings script task = world.now) :
    world.Exact (.fire task.ticket (task.outcome timings script)) ∧
      world.Answered timings script (.fire task.ticket (task.outcome timings script)) := by
  constructor
  · intro other among same due timed
    rw [sound.eq_of_ticket member among same] at timed
    rw [← present, setDue_of_due? timed]
  · intro other among same attempt awaited
    rw [sound.eq_of_ticket member among same] at awaited ⊢
    refine ⟨present, ?_⟩
    rw [Task.outcome, Option.mem_def.mp awaited]
    rfl

theorem now_deliver : (world.deliver timings []).now = world.now := by
  unfold deliver
  split
  · rfl
  · rw [handleSlowly, (foldl_perform_frame _ _).2.2]
    rfl

/-- **Until everything is at rest at the time in question, there is a step to take.** Nobody asks
for anything by it. Time goes by, or less is left to do at this instant. -/
theorem exists_step {rounds : Nat → Prop} (ticks : 0 < timings.tick)
    (backs : 0 < timings.retryDelay) (sound : Sound c world) (belongs : world.BelongsTo rounds)
    (onTime : world.OnTime timings script) (unasked : world.Unasked) {target : Span}
    (early : world.now ≤ target) (busy : ¬ (world.AtRest timings script ∧ world.now = target)) :
    ∃ step, (∀ request, step ≠ .ask request) ∧ world.Exact step ∧
      world.Answered timings script step ∧ (world.step timings step).Unasked ∧
      (world.step timings step).now ≤ target ∧
      (world.now < (world.step timings step).now ∨
        (world.step timings step).now = world.now ∧
          (world.step timings step).weight timings script < world.weight timings script) := by
  by_cases empty : world.mailbox = []
  · by_cases due : ∃ task ∈ world.tasks, setDue timings script task = world.now
    · obtain ⟨task, member, present⟩ := due
      let outcome := task.outcome timings script
      obtain ⟨exact, answered⟩ := fire_allowed sound member present
      have now : (world.fire timings task outcome).now = world.now :=
        (fire_frame timings world task outcome).2
      have own : task.job.BelongsTo fun _ => True :=
        (belongs.tasks task member).mono fun _ _ => trivial
      refine ⟨.fire task.ticket outcome, fun _ same => (by cases same), exact, answered, ?_⟩
      rw [step_fire sound member, now]
      exact ⟨fun command waits => (world.unasked_fire own outcome waits).elim (unasked command) id,
        early, Or.inr ⟨rfl, weight_fire sound ticks member present outcome⟩⟩
    · -- With nothing to do at this instant, the next one may come.
      have ahead : ∀ task ∈ world.tasks, world.now + 1 ≤ setDue timings script task :=
        fun task member => Nat.lt_of_le_of_ne (onTime task member) fun same =>
          due ⟨task, member, same.symm⟩
      have before : world.now < target :=
        Nat.lt_of_le_of_ne early fun same => busy ⟨⟨empty, ahead⟩, same⟩
      refine ⟨.wait 1, fun _ same => (by cases same), ⟨empty, fun task member due timed => ?_⟩,
        ahead, unasked, before, Or.inl (Nat.lt_succ_self _)⟩
      have later : world.now + 1 ≤ setDue timings script task := ahead task member
      rwa [setDue_of_due? timed] at later
  · refine ⟨.deliver [], fun _ same => (by cases same), rfl, trivial, unasked_deliver unasked,
      ?_, Or.inr ⟨now_deliver, weight_deliver backs unasked empty⟩⟩
    exact Nat.le_trans (Nat.le_of_eq now_deliver) early

end World

/-- The induction is on the time that is left, and at each instant on what is left to do. -/
theorem exists_atRest_within (ticks : 0 < timings.tick) (backs : 0 < timings.retryDelay)
    (target : Span) :
    ∀ distance weight steps, Scripted timings script steps →
      (World.run timings {} steps).Unasked → (World.run timings {} steps).now ≤ target →
      target - (World.run timings {} steps).now = distance →
      (World.run timings {} steps).weight timings script = weight →
      ∃ more, (∀ request, .ask request ∉ more) ∧ Scripted timings script (steps ++ more) ∧
        (World.run timings {} (steps ++ more)).AtRest timings script ∧
        (World.run timings {} (steps ++ more)).now = target := by
  intro distance
  induction distance using Nat.strongRecOn with
  | ind distance closer =>
    intro weight
    induction weight using Nat.strongRecOn with
    | ind weight lighter =>
      intro steps scripted unasked early far heavy
      let world := World.run timings {} steps
      by_cases done : world.AtRest timings script ∧ world.now = target
      · refine ⟨[], fun _ impossible => (by cases impossible), ?_⟩
        rw [List.append_nil]
        exact ⟨scripted, done⟩
      · obtain ⟨step, silent, exact, answered, still, within, progress⟩ :=
          World.exists_step ticks backs (accounted_of_run timings steps).sound
            (dated_of_run timings steps).belongs (onTime_of_run scripted) unasked early done
        have longer : Scripted timings script (steps ++ [step]) := scripted.concat ⟨exact, answered⟩
        rw [← World.run_concat] at still within progress
        have goesOn : ∃ more, (∀ request, .ask request ∉ more) ∧
            Scripted timings script ((steps ++ [step]) ++ more) ∧
            (World.run timings {} ((steps ++ [step]) ++ more)).AtRest timings script ∧
            (World.run timings {} ((steps ++ [step]) ++ more)).now = target := by
          rcases progress with later | ⟨same, less⟩
          · have near : target - (World.run timings {} (steps ++ [step])).now < distance := by
              rw [← far]
              exact Nat.sub_lt_sub_left (Nat.lt_of_lt_of_le later within) later
            exact closer _ near _ _ longer still within rfl rfl
          · have light :
                (World.run timings {} (steps ++ [step])).weight timings script < weight := by
              rw [← heavy]
              exact less
            exact lighter _ light _ longer still within (same ▸ far) rfl
        obtain ⟨more, unasking, rest⟩ := goesOn
        rw [List.append_assoc] at rest
        refine ⟨step :: more, fun request member => ?_, rest⟩
        rcases List.mem_cons.mp member with same | among
        · exact silent request same.symm
        · exact unasking request among

/-- **A run can go on to every later instant**, and comes to rest there, without anybody asking for
anything. -/
theorem exists_atRest (ticks : 0 < timings.tick) (backs : 0 < timings.retryDelay)
    {steps : List World.Step} (scripted : Scripted timings script steps)
    (unasked : (World.run timings {} steps).Unasked) {target : Span}
    (early : (World.run timings {} steps).now ≤ target) :
    ∃ more, (∀ request, .ask request ∉ more) ∧ Scripted timings script (steps ++ more) ∧
      (World.run timings {} (steps ++ more)).AtRest timings script ∧
      (World.run timings {} (steps ++ more)).now = target :=
  exists_atRest_within ticks backs target _ _ steps scripted unasked early rfl rfl

end TimedQuiz.Coordinator
