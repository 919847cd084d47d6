/-
**The timers that the coordinator holds.**

The coordinator keeps the tickets of its timers so that it can give them up: the countdown, the
follow-up and the retry. What it holds fits the phase, and is what it takes it for.

* `World.holds_of_run`: what every move keeps of the state and of the effects so far, every run of
  the world keeps.
* `Rested`: only a running round has timers, and none was opened before the first one.
* `tickets_of_run`: tickets are given out in order, and each to one piece of work.
* `Driven`: a running round holds the ticket of its own countdown.
* `Backed`: a retry that is held is outstanding. So the round has a load, and its flag is set.
-/

import TimedQuiz.Proofs.Coordinator.Expiry
import TimedQuiz.Proofs.Coordinator.Loading

namespace TimedQuiz.Coordinator

variable {timings : Timings}

/-! ### The effects of a run -/

namespace World

/-- The effects of a step: those of the command that it handles, if there is one. -/
def stepEffects (timings : Timings) (world : World) : Step → List Effect
  | .deliver pauses =>
    world.mailbox.head?.elim [] fun command =>
      (world.coordinator.handle timings { start := world.now, pauses } command).2.2
  | _ => []

/-- The effects of a run, in order. -/
def effects (timings : Timings) (world : World) : List Step → List Effect
  | [] => []
  | step :: rest =>
    world.stepEffects timings step ++ (world.step timings step).effects timings rest

theorem effects_concat (world : World) (steps : List Step) (step : Step) :
    world.effects timings (steps ++ [step]) =
      world.effects timings steps ++ (world.run timings steps).stepEffects timings step := by
  induction steps generalizing world with
  | nil => exact List.append_nil _
  | cons first rest ih =>
    rw [List.cons_append, effects, effects, ih, List.append_assoc]
    rfl

/-- A step that does not handle a command leaves the coordinator alone. -/
theorem step_coordinator (world : World) (step : Step) :
    ((world.step timings step).coordinator = world.coordinator ∧
        world.stepEffects timings step = []) ∨
      ∃ watch command,
        (world.step timings step).coordinator =
            (world.coordinator.handle timings watch command).2.1 ∧
          world.stepEffects timings step =
            (world.coordinator.handle timings watch command).2.2 := by
  cases step with
  | ask request => exact Or.inl ⟨rfl, rfl⟩
  | wait span => exact Or.inl ⟨rfl, rfl⟩
  | fire ticket outcome =>
    refine Or.inl ⟨?_, rfl⟩
    rw [World.step]
    split
    · exact (fire_frame timings world _ outcome).1
    · rfl
  | deliver pauses =>
    rw [World.step, deliver, stepEffects]
    split
    · rename_i waiting
      rw [waiting]
      exact Or.inl ⟨rfl, rfl⟩
    · rename_i command rest waiting
      rw [waiting]
      refine Or.inr ⟨{ start := world.now, pauses }, command, ?_, rfl⟩
      exact (foldl_perform_frame _ _).2.1

/-- **What holds at the beginning and is kept by every move holds of every run of the world.** -/
theorem holds_of_run (holds : Coordinator → List Effect → Prop) (initial : holds {} [])
    (kept : ∀ {watch arrival c next done effects}, Move timings watch arrival c effects next →
      holds c done → holds next (done ++ effects))
    (steps : List Step) :
    holds (run timings {} steps).coordinator (effects timings {} steps) := by
  induction steps using List.reverseRecOn with
  | nil => exact initial
  | append_singleton steps step ih =>
    rw [run_concat, effects_concat]
    rcases step_coordinator (run timings {} steps) step with
      ⟨same, none⟩ | ⟨watch, command, same, new⟩
    · rw [same, none, List.append_nil]
      exact ih
    · rw [same, new]
      refine handle_holds
        (fun next later => holds next (effects timings {} steps ++ later)) ?_ command ?_
      · intro arrival c next done more move before
        rw [← List.append_assoc]
        exact kept move before
      · rwa [List.append_nil]

end World

variable {watch : Watch} {c next : Coordinator} {effects : List Effect} {arrival : Bool}

/-! ### Outside a running round -/

/-- Only a running round has timers, and before the first round none was opened. -/
structure Rested (c : Coordinator) : Prop where
  idle : c.phase = .idle → c.generation = 0
  timers : c.phase ≠ .running → c.countdown = none ∧ c.followUp = none ∧ c.retry = none

namespace Rested

theorem initial : Rested {} where
  idle _ := rfl
  timers _ := ⟨rfl, rfl, rfl⟩

/-- A running round may have any timers. -/
theorem of_running (running : c.phase = .running) : Rested c where
  idle impossible := by rw [running] at impossible; cases impossible
  timers resting := absurd running resting

end Rested

/-- **Every move gives up the timers with the round.** -/
theorem Move.rested (move : Move timings watch arrival c effects next)
    (rested : Rested c) : Rested next := by
  cases move with
  | opening player resting => exact .of_running rfl
  | closing running present fresh =>
    exact ⟨fun impossible => (by cases impossible), fun _ => ⟨rfl, rfl, rfl⟩⟩
  | fetching number running free active => exact .of_running running
  | grading value running present shown active => exact .of_running running
  | scheduling running => exact .of_running running
  | following =>
    refine ⟨rested.idle, fun resting => ?_⟩
    obtain ⟨countdown, -, retry⟩ := rested.timers resting
    exact ⟨countdown, rfl, retry⟩
  | ticking remaining running => exact rested
  | displaying puzzle running present active => exact .of_running running
  | postponing running active => exact .of_running running
  | discarding late => exact ⟨rested.idle, rested.timers⟩
  | resuming =>
    refine ⟨rested.idle, fun resting => ?_⟩
    obtain ⟨countdown, followUp, -⟩ := rested.timers resting
    exact ⟨countdown, followUp, rfl⟩

theorem rested_of_run (timings : Timings) (steps : List World.Step) :
    Rested (World.run timings {} steps).coordinator :=
  World.holds_of_run (fun c _ => Rested c) .initial (fun move => move.rested) steps

/-! ### Tickets -/

/-- The ticket that an effect gives out. -/
def Effect.ticket? : Effect → Option Nat
  | fetch ticket _ => some ticket
  | countDown ticket _ _ => some ticket
  | remind ticket _ _ => some ticket
  | _ => none

/-- The tickets that effects give out, in order. -/
def tickets (effects : List Effect) : List Nat := effects.filterMap Effect.ticket?

theorem tickets_append (first second : List Effect) :
    tickets (first ++ second) = tickets first ++ tickets second :=
  List.filterMap_append

theorem tickets_cancel (cancelled : List Nat) : tickets (cancelled.map .cancel) = [] := by
  refine List.filterMap_eq_nil_iff.mpr fun effect member => ?_
  obtain ⟨ticket, -, rfl⟩ := List.mem_map.mp member
  rfl

/-- Every move gives out the next ticket or none. -/
theorem Move.tickets (move : Move timings watch arrival c effects next) :
    List.range next.nextTicket = List.range c.nextTicket ++ tickets effects := by
  cases move with
  | opening player resting =>
    rw [tickets_append, cancelTimers, tickets_cancel]
    exact List.range_succ
  | closing running present fresh =>
    rw [tickets_append, cancelTimers, tickets_cancel]
    exact (List.append_nil _).symm
  | scheduling running =>
    rw [scheduleFollowUp, tickets_append, tickets_cancel]
    exact List.range_succ
  | fetching number running free active => exact List.range_succ
  | postponing running active => exact List.range_succ
  | _ => exact (List.append_nil _).symm

/-- **Tickets are given out in order, and each of them once.** -/
theorem tickets_of_run (timings : Timings) (steps : List World.Step) :
    tickets (World.effects timings {} steps) =
      List.range (World.run timings {} steps).coordinator.nextTicket := by
  refine World.holds_of_run (fun c done => tickets done = List.range c.nextTicket) rfl ?_ steps
  intro watch arrival c next done effects move before
  rw [tickets_append, before, move.tickets]

/-! ### The countdown of a running round -/

/-- A running round holds the ticket of the countdown that was started for it, on its own clock. -/
def Driven (c : Coordinator) (done : List Effect) : Prop :=
  c.phase = .running → ∃ ticket round, c.countdown = some ticket ∧ c.round = some round ∧
    .countDown ticket c.generation round.clock ∈ done

/-- **Every move keeps the countdown with its round.** -/
theorem Move.driven {done : List Effect} (move : Move timings watch arrival c effects next)
    (driven : Driven c done) : Driven next (done ++ effects) := by
  cases move with
  | opening player resting =>
    refine fun _ => ⟨c.nextTicket, _, rfl, rfl, ?_⟩
    simp [Round.openedAt]
  | closing running present fresh => exact fun impossible => by cases impossible
  | grading value running present shown active =>
    intro _
    obtain ⟨ticket, round, held, found, started⟩ := driven running
    cases present.symm.trans found
    refine ⟨ticket, _, held, rfl, List.mem_append_left _ ?_⟩
    rwa [Round.grade_clock]
  | displaying puzzle running present active =>
    intro _
    obtain ⟨ticket, round, held, found, started⟩ := driven running
    cases present.symm.trans found
    exact ⟨ticket, _, held, rfl, List.mem_append_left _ started⟩
  | _ =>
    intro running
    obtain ⟨ticket, round, held, found, started⟩ := driven running
    exact ⟨ticket, round, held, found, List.mem_append_left _ started⟩

theorem driven_of_run (timings : Timings) (steps : List World.Step) :
    Driven (World.run timings {} steps).coordinator (World.effects timings {} steps) :=
  World.holds_of_run Driven (fun impossible => by cases impossible) (fun move => move.driven) steps

/-! ### The retry -/

namespace World

/-- How many retries of a round are outstanding, set or waiting to be handled. -/
def retriesLeft (world : World) (generation : Nat) : Nat :=
  world.outstanding (Task.isRetryOf generation) (Command.isRetryOf generation)

theorem retriesLeft_le_loads (world : World) (generation : Nat) :
    world.retriesLeft generation ≤ world.loads generation :=
  Nat.add_le_add
    (List.countP_mono_left fun _ _ retry => Task.isLoadOf_of_isRetryOf retry)
    (List.countP_mono_left fun _ _ retry => Command.isLoadOf_of_isRetryOf retry)

theorem retriesLeft_post (world : World) (command : Command) (generation : Nat) :
    (world.post command).retriesLeft generation =
      world.retriesLeft generation + (command.isRetryOf generation).toNat :=
  outstanding_post world command _ _

end World

/-- Retries send retries. -/
theorem sends_retries (generation : Nat) :
    Sends (Task.isRetryOf generation) (Command.isRetryOf generation) where
  fetch _ _ _ _ _ := rfl
  reminder _ _ _ _ := rfl
  countDown _ _ _ _ _ := rfl
  tick _ _ := rfl
  expired _ := rfl

/-- A retry that is held is outstanding. -/
def Backed (c : Coordinator) (world : World) : Prop :=
  c.retry ≠ none → 0 < world.retriesLeft c.generation

namespace Backed

variable {world later : World}

theorem of_free (free : c.retry = none) : Backed c world := fun held => absurd free held

/-- The retry is as it was. -/
theorem kept (backed : Backed c world) (generation : next.generation = c.generation)
    (retry : next.retry = c.retry)
    (left : world.retriesLeft c.generation ≤ later.retriesLeft c.generation) :
    Backed next later := by
  intro held
  rw [retry] at held
  rw [generation]
  exact Nat.lt_of_lt_of_le (backed held) left

end Backed

variable {world later : World}

/-- While the round goes on, its retry does. -/
theorem Passage.retries_eq (passage : Passage c world next later)
    (generation : next.generation = c.generation) (phase : next.phase = c.phase) :
    later.retries c.generation = world.retries c.generation := by
  cases passage with
  | kept same on retries loads => exact retries
  | ended same running stopped retries loads => exact absurd (phase.trans running) stopped
  | opened newer retries loads => exact absurd generation (Nat.ne_of_gt newer)

/-- **A move that takes no load in keeps the retry or gives it up.** -/
theorem Move.backed (move : Move timings watch false c effects next) (sound : Sound c world)
    (backed : Backed c world) : Backed next (effects.foldl World.perform world) := by
  have passage := move.passage sound
  have mailbox := (World.foldl_perform_frame effects world).1
  have goesOn (generation : next.generation = c.generation) (phase : next.phase = c.phase) :
      world.retriesLeft c.generation ≤
        (effects.foldl World.perform world).retriesLeft c.generation := by
    have retries := passage.retries_eq generation phase
    rw [World.retriesLeft, World.retriesLeft, World.outstanding, World.outstanding, mailbox]
    exact Nat.add_le_add_right (Nat.le_of_eq retries.symm) _
  cases move with
  | opening player resting => exact .of_free rfl
  | closing running present fresh => exact .of_free rfl
  | _ => exact backed.kept rfl rfl (goesOn rfl rfl)

theorem Moves.backed (moves : Moves timings watch c effects next) (sound : Sound c world)
    (backed : Backed c world) : Backed next (effects.foldl World.perform world) := by
  induction moves generalizing world with
  | rest c => exact backed
  | step move _ ih =>
    rw [List.foldl_append]
    exact ih (move.sound sound fun impossible => by cases impossible) (move.backed sound backed)

/-- A load is taken in while no retry is held: then only a failed fetch sets one. -/
theorem Move.backed_of_free (move : Move timings watch true c effects next)
    (free : c.retry = none) : Backed next (effects.foldl World.perform world) := by
  cases move with
  | postponing running active =>
    intro _
    have set := World.retries_remind world c.nextTicket c.generation timings.retryDelay
      (.retryDue c.generation)
    rw [Command.isRetryOf, beq_self_eq_true, Bool.toNat_true] at set
    exact Nat.lt_of_lt_of_le (Nat.lt_of_lt_of_eq (Nat.succ_pos _) set.symm) (Nat.le_add_right _ _)
  | displaying puzzle running present active => exact .of_free free
  | discarding late => exact .of_free free
  | resuming => exact .of_free rfl

/-- **Whatever command is handled, a retry that is held is outstanding.** -/
theorem Accounted.backed_handled {lost : Prop} (accounted : Accounted world lost)
    (backed : Backed world.coordinator world) {command : Command} {rest : List Command}
    (waiting : world.mailbox = command :: rest) (tasks : later.tasks = world.tasks)
    (mailbox : later.mailbox = rest) :
    Backed (world.coordinator.handle timings watch command).2.1
      ((world.coordinator.handle timings watch command).2.2.foldl World.perform later) := by
  obtain ⟨sound, loads⟩ := accounted.taking waiting tasks mailbox
  have loads := loads world.coordinator.generation
  have left : world.retriesLeft world.coordinator.generation =
      later.retriesLeft world.coordinator.generation +
        (command.isRetryOf world.coordinator.generation).toNat := by
    rw [World.retriesLeft, World.retriesLeft, World.outstanding, World.outstanding, waiting, tasks,
      mailbox, List.countP_cons, Nat.add_assoc]
    cases command.isRetryOf world.coordinator.generation <;> rfl
  cases arrival : command.isLoadOf world.coordinator.generation with
  | false =>
    have other : command.isRetryOf world.coordinator.generation = false :=
      eq_false_of_ne_true fun retry =>
        Bool.false_ne_true (arrival.symm.trans (Command.isLoadOf_of_isRetryOf retry))
    rw [other] at left
    exact (handle_moves timings watch _ command arrival).backed sound
      (backed.kept rfl rfl (Nat.le_of_eq left))
  | true =>
    rw [arrival] at loads
    obtain ⟨-, alone, -⟩ := accounted.balanced.of_arrival loads
    rcases Command.isLoadOf_iff.mp arrival with ⟨outcome, rfl⟩ | rfl
    · -- The fetch was the only load, so there was no retry beside it.
      refine (handle_fetched timings watch _ outcome).backed_of_free (not_not.mp fun held => ?_)
      have bound := later.retriesLeft_le_loads world.coordinator.generation
      rw [alone] at bound
      exact absurd (backed held) (Nat.not_lt_of_le (Nat.le_trans (Nat.le_of_eq left) bound))
    · have resuming : Move timings watch true world.coordinator []
          { world.coordinator with retry := none, loading := false } := .resuming
      exact (handle_retryDue _).backed (resuming.sound sound fun _ => alone) (.of_free rfl)

theorem Accounted.backed_step {lost : Prop} (accounted : Accounted world lost)
    (backed : Backed world.coordinator world) (step : World.Step) :
    Backed (world.step timings step).coordinator (world.step timings step) := by
  cases step with
  | ask request =>
    refine backed.kept rfl rfl ?_
    exact Nat.le_trans (Nat.le_add_right _ _) (Nat.le_of_eq (World.retriesLeft_post ..).symm)
  | wait span => exact backed
  | fire ticket outcome =>
    rw [World.step]
    split
    · rename_i task found
      have member := List.mem_of_find?_eq_some found
      rw [(World.fire_frame timings world task outcome).1]
      have same := accounted.sound.outstanding_fire (sends_retries world.coordinator.generation)
        timings member outcome
      exact backed.kept rfl rfl (Nat.le_of_eq same.symm)
    · exact backed
  | deliver pauses =>
    rw [World.step, World.deliver]
    split
    · exact backed
    · rename_i command rest waiting
      rw [World.handleSlowly, (World.foldl_perform_frame _ _).2.1]
      exact accounted.backed_handled backed waiting rfl rfl

theorem backed_of_run (timings : Timings) (steps : List World.Step) :
    Backed (World.run timings {} steps).coordinator (World.run timings {} steps) := by
  induction steps using List.reverseRecOn with
  | nil => exact .of_free rfl
  | append_singleton steps step ih =>
    rw [World.run_concat]
    exact (accounted_of_run timings steps).backed_step ih step

/-- **As long as the retry is held, the flag says that a puzzle is on its way.** -/
theorem loading_of_retry (timings : Timings) (steps : List World.Step)
    (held : (World.run timings {} steps).coordinator.retry ≠ none) :
    (World.run timings {} steps).coordinator.loading = true := by
  have running : (World.run timings {} steps).coordinator.phase = .running :=
    not_not.mp fun resting => held ((rested_of_run timings steps).timers resting).2.2
  have counted :=
    (accounted_of_run timings steps).balanced.kept (not_abandoned_of_running running)
  have left := Nat.lt_of_lt_of_le (backed_of_run timings steps held)
    (World.retriesLeft_le_loads _ _)
  rw [counted] at left
  exact Bool.toNat_eq_one.mp (Nat.le_antisymm (Bool.toNat_le _) left)

end TimedQuiz.Coordinator
