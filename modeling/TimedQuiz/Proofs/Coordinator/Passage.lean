/-
**What a command does to the loads of the current round.**

A command that brings no load of the current round does one of three things, and a path of moves
does them one after another. `Passage` says what becomes of the loads and of the flag in each case.

* The round goes on: its loads change as the flag does.
* The round is ended: exactly its retry is lost. The flag is not told.
* Another round is opened: the flag is set anew and tells the loads of that round.

A command that brings a load of the current round first takes it in (`Move.taken`).
-/

import TimedQuiz.Proofs.Coordinator.Work

namespace TimedQuiz.Coordinator

variable {timings : Timings} {watch : Watch} {c next : Coordinator}

/-! ### Passages -/

/-- What becomes of the loads of the current round when a command that brings none is handled. -/
inductive Passage (c : Coordinator) (world : World) (next : Coordinator) (later : World) : Prop
  /-- The round goes on: its loads change as the flag does. -/
  | kept (same : next.generation = c.generation)
      (phase : next.phase = .running ↔ c.phase = .running)
      (retries : later.retries c.generation = world.retries c.generation)
      (loads : later.loads c.generation + c.loading.toNat =
        world.loads c.generation + next.loading.toNat)
  /-- The round is ended: its retry is lost, and the flag is not told. -/
  | ended (same : next.generation = c.generation) (running : c.phase = .running)
      (stopped : next.phase ≠ .running) (retries : later.retries c.generation = 0)
      (loads : later.loads c.generation + world.retries c.generation + c.loading.toNat =
        world.loads c.generation + next.loading.toNat)
  /-- Another round is opened: its loads are those that the flag tells. -/
  | opened (newer : c.generation < next.generation) (retries : later.retries next.generation = 0)
      (loads : later.loads next.generation = next.loading.toNat)

namespace Passage

variable {middle : Coordinator} {world later last : World}

theorem refl (c : Coordinator) (world : World) : Passage c world c world :=
  .kept rfl Iff.rfl rfl rfl

/-- A round that has been ended is not ended again, and one that has been opened has no retry to
lose. -/
theorem trans (first : Passage c world middle later) (second : Passage middle later next last) :
    Passage c world next last := by
  cases first with
  | kept same phase retries loads =>
    cases second with
    | kept same' phase' retries' loads' =>
      rw [same] at same' retries' loads'
      exact .kept same' (phase'.trans phase) (retries'.trans retries) (by omega)
    | ended same' running stopped retries' loads' =>
      rw [same] at same' retries' loads'
      exact .ended same' (phase.mp running) stopped retries' (by omega)
    | opened newer retries' loads' =>
      rw [same] at newer
      exact .opened newer retries' loads'
  | ended same running stopped retries loads =>
    cases second with
    | kept same' phase retries' loads' =>
      rw [same] at same' retries' loads'
      exact .ended same' running (fun again => stopped (phase.mp again)) (retries'.trans retries)
        (by omega)
    | ended _ again _ _ _ => exact absurd again stopped
    | opened newer retries' loads' =>
      rw [same] at newer
      exact .opened newer retries' loads'
  | opened newer retries loads =>
    cases second with
    | kept same _ retries' loads' =>
      rw [← same] at newer retries loads retries' loads'
      exact .opened newer (retries'.trans retries) (by omega)
    | ended same _ _ retries' loads' =>
      rw [← same] at newer retries loads retries' loads'
      exact .opened newer retries' (by omega)
    | opened newer' retries' loads' => exact .opened (Nat.lt_trans newer newer') retries' loads'

end Passage

/-! ### Cancelling -/

/-- Cancelling tickets that no load of a round has leaves its loads and retries. -/
theorem World.loads_cancelled_of_not_mem {world : World} {tickets : List Nat} {generation : Nat}
    (others : ∀ task ∈ world.tasks, task.isLoadOf generation = true → task.ticket ∉ tickets) :
    (world.cancelled tickets).loads generation = world.loads generation ∧
      (world.cancelled tickets).retries generation = world.retries generation := by
  rw [loads, retries, tasks_cancelled, mailbox_cancelled, List.countP_filter, List.countP_filter]
  constructor
  · refine congrArg (· + _) (List.countP_congr fun task member => ?_)
    rw [Bool.and_eq_true, decide_eq_true_eq]
    exact and_iff_left_of_imp (others task member)
  · refine List.countP_congr fun task member => ?_
    rw [Bool.and_eq_true, decide_eq_true_eq]
    exact and_iff_left_of_imp fun retry => others task member (Task.isLoadOf_of_isRetryOf retry)

/-- Giving up the timers takes exactly the retries from the loads of the current round. -/
theorem Sound.loads_timers {world : World} (sound : Sound c world) :
    (world.cancelled c.timers).loads c.generation + world.retries c.generation =
        world.loads c.generation ∧
      (world.cancelled c.timers).retries c.generation = 0 := by
  have held : ∀ task ∈ world.tasks, task.isLoadOf c.generation = true →
      (task.ticket ∈ c.timers ↔ task.isRetryOf c.generation = true) :=
    fun task member load => (sound.known task member).mem_timers_iff load
  constructor
  · have split := List.countP_eq_countP_filter_add world.tasks (Task.isLoadOf c.generation)
      fun task => decide (task.ticket ∉ c.timers)
    have dropped : (world.tasks.filter fun task => !decide (task.ticket ∉ c.timers)).countP
        (Task.isLoadOf c.generation) = world.retries c.generation := by
      rw [List.countP_filter]
      refine List.countP_congr fun task member => ?_
      rw [Bool.and_eq_true, Bool.not_eq_true', decide_eq_false_iff_not, not_not]
      constructor
      · exact fun gone => (held task member gone.1).mp gone.2
      · exact fun retry =>
          have load := Task.isLoadOf_of_isRetryOf retry
          ⟨load, (held task member load).mpr retry⟩
    rw [World.loads, World.loads, World.tasks_cancelled, World.mailbox_cancelled, split, dropped]
    exact Nat.add_right_comm _ _ _
  · refine List.countP_eq_zero.mpr fun task member retry => ?_
    have left := World.not_mem_of_mem_cancelled member
    rw [World.tasks_cancelled] at member
    have load := Task.isLoadOf_of_isRetryOf retry
    exact left ((held task (List.mem_filter.mp member).1 load).mpr retry)

/-! ### Every path is a passage -/

/-- **Every move that takes no load in is a passage.** -/
theorem Move.passage {effects : List Effect} {world : World}
    (move : Move timings watch false c effects next) (sound : Sound c world) :
    Passage c world next (effects.foldl World.perform world) := by
  cases move with
  | opening player resting =>
    have middle := sound.cancelled c.timers
    have none := middle.loads_future (Nat.lt_succ_self c.generation)
    have unset := Nat.eq_zero_of_le_zero (none ▸ World.retries_le_loads _ (c.generation + 1))
    rw [List.foldl_append]
    exact .opened (Nat.lt_succ_self _) ((World.retries_countDown ..).trans unset)
      ((World.loads_countDown ..).trans none)
  | closing running present fresh =>
    rw [List.foldl_append]
    have ⟨loads, retries⟩ := sound.loads_timers
    exact .ended rfl running (fun impossible => by cases impossible) retries
      (congrArg (· + c.loading.toNat) loads)
  | fetching number running free active =>
    refine .kept rfl Iff.rfl (World.retries_fetch ..) ?_
    rw [List.foldl_cons, List.foldl_nil, World.loads_fetch, beq_self_eq_true, free]
    rfl
  | grading value running present shown active => exact .kept rfl Iff.rfl rfl rfl
  | scheduling running =>
    have others : ∀ task ∈ world.tasks, task.isLoadOf c.generation = true →
        task.ticket ∉ c.followUp.toList := fun task member load held =>
      (sound.known task member).followUp load (Option.mem_toList.mp held)
    obtain ⟨loads, retries⟩ := World.loads_cancelled_of_not_mem others
    rw [scheduleFollowUp, List.foldl_append]
    exact .kept rfl Iff.rfl ((World.retries_remind ..).trans retries)
      (congrArg (· + c.loading.toNat) ((World.loads_remind ..).trans loads))
  | following => exact .kept rfl Iff.rfl rfl rfl
  | ticking remaining running => exact .kept rfl Iff.rfl rfl rfl

/-- Every path of moves keeps the state sound and is a passage. -/
theorem Moves.passage {effects : List Effect} {world : World}
    (moves : Moves timings watch c effects next) (sound : Sound c world) :
    Sound next (effects.foldl World.perform world) ∧
      Passage c world next (effects.foldl World.perform world) := by
  induction moves generalizing world with
  | rest c => exact ⟨sound, .refl c world⟩
  | step move _ ih =>
    rw [List.foldl_append]
    obtain ⟨after, later⟩ := ih (move.sound sound fun impossible => by cases impossible)
    exact ⟨after, (move.passage sound).trans later⟩

/-! ### Taking a load in -/

/-- A load of the current round is taken in when there is no other: the flag then tells what is left
of it. -/
theorem Move.taken {effects : List Effect} {world : World}
    (move : Move timings watch true c effects next) (alone : world.loads c.generation = 0)
    (loading : c.loading = true) :
    next.generation = c.generation ∧ next.phase = c.phase ∧
      (effects.foldl World.perform world).loads c.generation = next.loading.toNat := by
  cases move with
  | displaying puzzle running present active => exact ⟨rfl, rfl, alone⟩
  | postponing running active =>
    refine ⟨rfl, rfl, ?_⟩
    rw [List.foldl_cons, List.foldl_nil, World.loads_remind, alone, loading]
    exact congrArg (0 + ·.toNat) (beq_self_eq_true c.generation)
  | discarding late => exact ⟨rfl, rfl, alone⟩
  | resuming => exact ⟨rfl, rfl, alone⟩

/-! ### Rounds come one after another -/

/-- No move goes back to an earlier round. -/
theorem Move.generation_le {arrival : Bool} {effects : List Effect}
    (move : Move timings watch arrival c effects next) : c.generation ≤ next.generation := by
  cases move with
  | opening => exact Nat.le_succ _
  | _ => exact Nat.le_refl _

theorem generation_le_handle (c : Coordinator) (command : Command) :
    c.generation ≤ (c.handle timings watch command).2.1.generation :=
  handle_keeps (fun next => c.generation ≤ next.generation)
    (fun move before => Nat.le_trans before move.generation_le) command (Nat.le_refl _)

end TimedQuiz.Coordinator
