/-
**The flag that a puzzle is on its way, and the loads it stands for.**

* `loads_of_run`: the current round never has two loads, and while it is running without a puzzle
  and has not expired, it has one.
* `loading_of_run`: the flag tells whether the current round has a load, unless the round was ended
  while its retry was set. Ending it gives the retry up, and nothing takes the flag back.

Both follow from one account, kept from step to step (`Accounted.step`): the flag is the number of
the loads of the current round, or the round was ended while its retry was set.
-/

import TimedQuiz.Proofs.Coordinator.Coherence
import TimedQuiz.Proofs.Coordinator.Passage

namespace TimedQuiz.Coordinator

/-! ### The flag as a count -/

/-- The round that is on is ended while its retry is set. -/
def Abandons (c : Coordinator) (world : World) (next : Coordinator) : Prop :=
  c.phase = .running ∧ next.phase ≠ .running ∧ 0 < world.retries c.generation

/-- The current round has lost its load: it had lost it before, or it has just been abandoned. -/
structure LostAfter (c : Coordinator) (world : World) (next : Coordinator) (lost : Prop) :
    Prop where
  current : next.generation = c.generation
  cause : lost ∨ Abandons c world next

/-- The flag counts the loads of the current round, unless its only load was lost. -/
structure Balanced (c : Coordinator) (world : World) (lost : Prop) : Prop where
  kept : ¬ lost → world.loads c.generation = c.loading.toNat
  lost : lost → world.loads c.generation = 0 ∧ c.loading = true ∧ c.phase ≠ .running

namespace Balanced

variable {c : Coordinator} {world : World} {lost : Prop}

theorem loads_le_one (balanced : Balanced c world lost) : world.loads c.generation ≤ 1 := by
  by_cases gone : lost
  · rw [(balanced.lost gone).1]
    exact Nat.zero_le 1
  · rw [balanced.kept gone]
    exact Bool.toNat_le c.loading

theorem congr (balanced : Balanced c world lost) {later : World} {gone : Prop}
    (loads : later.loads c.generation = world.loads c.generation) (same : gone ↔ lost) :
    Balanced c later gone where
  kept := by rw [loads, same]; exact balanced.kept
  lost := by rw [loads, same]; exact balanced.lost

/-- A load that has been taken in was the only one. -/
theorem of_arrival (balanced : Balanced c world lost) {rest : Nat}
    (loads : world.loads c.generation = rest + 1) : ¬ lost ∧ rest = 0 ∧ c.loading = true := by
  have kept : ¬ lost := fun gone => by
    rw [(balanced.lost gone).1] at loads
    cases loads
  have counted := balanced.kept kept
  rw [loads] at counted
  cases loading : c.loading with
  | false => rw [loading] at counted; cases counted
  | true => rw [loading] at counted; exact ⟨kept, Nat.succ.inj counted, rfl⟩

end Balanced

/-- **A passage keeps the account**, and loses a load exactly when it abandons a round. -/
theorem Passage.balanced {c next : Coordinator} {world later : World} {lost : Prop}
    (passage : Passage c world next later) (balanced : Balanced c world lost) :
    Balanced next later (LostAfter c world next lost) := by
  cases passage with
  | kept same phase retries loads =>
    have steady : ¬ Abandons c world next := fun gone => gone.2.1 (phase.mpr gone.1)
    constructor
    · intro kept
      have counted := balanced.kept fun gone => kept ⟨same, Or.inl gone⟩
      rw [same]
      omega
    · rintro ⟨_, gone | gone⟩
      · obtain ⟨none, loading, stopped⟩ := balanced.lost gone
        rw [none, loading, Bool.toNat_true] at loads
        rw [same]
        have bound := Bool.toNat_le next.loading
        exact ⟨by omega, Bool.toNat_eq_one.mp (by omega), fun again => stopped (phase.mp again)⟩
      · exact absurd gone steady
  | ended same running stopped retries loads =>
    have found : ¬ lost := fun gone => (balanced.lost gone).2.2 running
    have counted := balanced.kept found
    have bound := Bool.toNat_le next.loading
    constructor
    · intro kept
      have unset : world.retries c.generation = 0 :=
        Nat.eq_zero_of_not_pos fun set => kept ⟨same, Or.inr ⟨running, stopped, set⟩⟩
      rw [same]
      omega
    · rintro ⟨_, gone | gone⟩
      · exact absurd gone found
      · have set := gone.2.2
        rw [same]
        exact ⟨by omega, Bool.toNat_eq_one.mp (by omega), stopped⟩
  | opened newer retries loads =>
    exact
      { kept := fun _ => loads
        lost := fun gone => absurd gone.current (Nat.ne_of_gt newer) }

/-- No round is abandoned that has no load. -/
theorem not_abandons {c next : Coordinator} {world : World}
    (alone : world.loads c.generation = 0) : ¬ Abandons c world next := fun gone =>
  absurd (Nat.lt_of_lt_of_le gone.2.2 (world.retries_le_loads c.generation))
    (alone ▸ Nat.lt_irrefl 0)

/-- Once the only load of the current round has been brought, the flag tells what there is then. -/
theorem handle_arrival {timings : Timings} {watch : Watch} {c : Coordinator} {world : World}
    {command : Command} (arrival : command.isLoadOf c.generation = true) (sound : Sound c world)
    (alone : world.loads c.generation = 0) (loading : c.loading = true) :
    Sound (c.handle timings watch command).2.1
        ((c.handle timings watch command).2.2.foldl World.perform world) ∧
      ((c.handle timings watch command).2.2.foldl World.perform world).loads
          (c.handle timings watch command).2.1.generation =
        (c.handle timings watch command).2.1.loading.toNat := by
  rcases Command.isLoadOf_iff.mp arrival with ⟨outcome, rfl⟩ | rfl
  · have move := handle_fetched timings watch c outcome
    obtain ⟨same, _, loads⟩ := move.taken alone loading
    rw [same]
    exact ⟨move.sound sound fun _ => alone, loads⟩
  · have move : Move timings watch true c [] { c with retry := none, loading := false } := .resuming
    have resumed := move.sound sound fun _ => alone
    obtain ⟨after, passage⟩ := (handle_retryDue c).passage resumed
    have resting : Balanced { c with retry := none, loading := false } world False :=
      { kept := fun _ => alone
        lost := False.elim }
    refine ⟨after, (passage.balanced resting).kept fun gone => ?_⟩
    exact gone.cause.elim id (not_abandons alone)

/-! ### What holds between two steps -/

/-- Between two steps the state is coherent and sound, a round that is running without a puzzle
loads one or has expired, and the flag counts the loads. -/
structure Accounted (world : World) (lost : Prop) : Prop where
  coherent : Coherent world.coordinator
  awaits : Awaits world.coordinator world.now
  sound : Sound world.coordinator world
  balanced : Balanced world.coordinator world lost

namespace Accounted

variable {timings : Timings} {world later : World} {lost : Prop}

theorem initial : Accounted {} False where
  coherent := coherent_initial
  awaits := .of_loading fun impossible => by cases impossible
  sound :=
    { distinct := List.Pairwise.nil
      known := fun _ impossible => by cases impossible
      early := fun _ impossible => by cases impossible
      timers := fun _ impossible => by cases impossible }
  balanced :=
    { kept := fun _ => rfl
      lost := False.elim }

theorem congr_lost (accounted : Accounted world lost) {gone : Prop} (same : gone ↔ lost) :
    Accounted world gone :=
  { accounted with balanced := accounted.balanced.congr rfl same }

/-- The coordinator has not been involved. -/
theorem aside (accounted : Accounted world lost) (same : later.coordinator = world.coordinator)
    (order : world.now ≤ later.now) (sound : Sound world.coordinator later)
    (loads : later.loads world.coordinator.generation =
      world.loads world.coordinator.generation) :
    Accounted later (LostAfter world.coordinator world later.coordinator lost) where
  coherent := by rw [same]; exact accounted.coherent
  awaits := by rw [same]; exact accounted.awaits.later order
  sound := by rw [same]; exact sound
  balanced := by
    rw [same]
    refine accounted.balanced.congr loads ⟨?_, fun gone => ⟨rfl, Or.inl gone⟩⟩
    rintro ⟨_, gone | gone⟩
    · exact gone
    · exact absurd gone.1 gone.2.1

/-- A waiting command has been taken from the mailbox. It takes its load with it. -/
theorem taking (accounted : Accounted world lost) {command : Command} {rest : List Command}
    (waiting : world.mailbox = command :: rest) (tasks : later.tasks = world.tasks)
    (mailbox : later.mailbox = rest) :
    Sound world.coordinator later ∧
      ∀ generation, world.loads generation =
        later.loads generation + (command.isLoadOf generation).toNat := by
  constructor
  · exact
      { distinct := by rw [tasks]; exact accounted.sound.distinct
        known := by rw [tasks]; exact accounted.sound.known
        early := fun other member => accounted.sound.early other (by
          rw [mailbox] at member
          rw [waiting]
          exact List.mem_cons_of_mem _ member)
        timers := accounted.sound.timers }
  · intro generation
    rw [World.loads, World.loads, waiting, tasks, mailbox, List.countP_cons, Nat.add_assoc]
    cases command.isLoadOf generation <;> rfl

/-- Whatever command is handled, the account of the loads is kept. -/
theorem handled (accounted : Accounted world lost) (timings : Timings) (watch : Watch)
    {command : Command} {rest : List Command} (waiting : world.mailbox = command :: rest)
    (later : World) (tasks : later.tasks = world.tasks) (mailbox : later.mailbox = rest) :
    let next := (world.coordinator.handle timings watch command).2.1
    let effects := (world.coordinator.handle timings watch command).2.2
    Sound next (effects.foldl World.perform later) ∧
      Balanced next (effects.foldl World.perform later)
        (LostAfter world.coordinator world next lost) := by
  intro next effects
  obtain ⟨sound, loads⟩ := accounted.taking waiting tasks mailbox
  have loads := loads world.coordinator.generation
  have retries : later.retries world.coordinator.generation =
      world.retries world.coordinator.generation := by rw [World.retries, tasks]; rfl
  have same : Abandons world.coordinator later next ↔ Abandons world.coordinator world next := by
    rw [Abandons, Abandons, retries]
  cases arrival : command.isLoadOf world.coordinator.generation with
  | false =>
    rw [arrival] at loads
    obtain ⟨after, passage⟩ :=
      (handle_moves timings watch world.coordinator command arrival).passage sound
    have balanced := passage.balanced (accounted.balanced.congr loads.symm Iff.rfl)
    refine ⟨after, balanced.congr rfl ⟨?_, ?_⟩⟩
    · exact fun gone => ⟨gone.current, gone.cause.imp_right same.mpr⟩
    · exact fun gone => ⟨gone.current, gone.cause.imp_right same.mp⟩
  | true =>
    rw [arrival] at loads
    obtain ⟨found, alone, loading⟩ := accounted.balanced.of_arrival loads
    obtain ⟨after, counted⟩ := handle_arrival arrival sound alone loading
    refine ⟨after, { kept := fun _ => counted, lost := ?_ }⟩
    rintro ⟨_, gone | gone⟩
    · exact absurd gone found
    · exact absurd (same.mpr gone) (not_abandons alone)

theorem deliver (accounted : Accounted world lost) (pauses : List Span) :
    Accounted (world.deliver timings pauses)
      (LostAfter world.coordinator world (world.deliver timings pauses).coordinator lost) := by
  unfold World.deliver
  split
  · exact accounted.aside rfl (Nat.le_refl _) accounted.sound rfl
  · rename_i command rest waiting
    let watch : Watch := { start := world.now, pauses }
    let next := (world.coordinator.handle timings watch command).2.1
    let effects := (world.coordinator.handle timings watch command).2.2
    let middle : World :=
      { world with mailbox := rest, coordinator := next, now := watch.stop }
    obtain ⟨_, coordinator, now⟩ := World.foldl_perform_frame effects middle
    obtain ⟨sound, balanced⟩ := accounted.handled timings watch waiting middle rfl rfl
    change Accounted (effects.foldl World.perform middle)
      (LostAfter world.coordinator world (effects.foldl World.perform middle).coordinator lost)
    rw [coordinator]
    exact
      { coherent := by rw [coordinator]; exact handle_coherent command accounted.coherent
        awaits := by
          rw [coordinator, now]
          exact handle_awaits command accounted.coherent accounted.awaits
        sound := by rw [coordinator]; exact sound
        balanced := by rw [coordinator]; exact balanced }

/-- **Every step keeps the account**; the current round has lost its load after the step if it had
before, or if the step has ended it while its retry was set. -/
theorem step (accounted : Accounted world lost) (step : World.Step) :
    Accounted (world.step timings step)
      (LostAfter world.coordinator world (world.step timings step).coordinator lost) := by
  cases step with
  | ask request =>
    have quiet (generation : Nat) : request.command.isLoadOf generation = false := by
      cases request <;> rfl
    refine accounted.aside rfl (Nat.le_refl _) (accounted.sound.post _ fun generation load => ?_) ?_
    · rw [quiet generation] at load
      cases load
    · exact (World.loads_post ..).trans (by rw [quiet]; rfl)
  | deliver pauses => exact accounted.deliver pauses
  | fire ticket outcome =>
    rw [World.step]
    split
    · rename_i task found
      have member := List.mem_of_find?_eq_some found
      have sound := accounted.sound.fire timings member outcome
      obtain ⟨coordinator, now⟩ := World.fire_frame timings world task outcome
      exact accounted.aside coordinator (Nat.le_of_eq now.symm) sound
        (accounted.sound.outstanding_fire (sends_loads _) timings member outcome)
    · exact accounted.aside rfl (Nat.le_refl _) accounted.sound rfl
  | wait span =>
    have sound : Sound world.coordinator { world with now := world.now + span } :=
      accounted.sound.kept (List.Sublist.refl _) rfl (Nat.le_refl _) (fun _ _ known => known)
        accounted.sound.timers
    exact accounted.aside rfl (Nat.le_add_right _ _) sound rfl

end Accounted

/-! ### Runs -/

/-- The current round was ended while its retry was set. -/
def Abandoned (timings : Timings) (steps : List World.Step) : Prop :=
  ∃ before step after, steps = before ++ step :: after ∧
    Abandons (World.run timings {} before).coordinator (World.run timings {} before)
      ((World.run timings {} before).step timings step).coordinator ∧
    (World.run timings {} before).coordinator.generation =
      (World.run timings {} steps).coordinator.generation

variable {timings : Timings}

theorem World.run_concat (world : World) (steps : List Step) (step : Step) :
    world.run timings (steps ++ [step]) = (world.run timings steps).step timings step := by
  rw [run, List.foldl_append]
  rfl

theorem World.generation_le_step (world : World) (step : Step) :
    world.coordinator.generation ≤ (world.step timings step).coordinator.generation := by
  cases step with
  | ask request => exact Nat.le_refl _
  | deliver pauses =>
    simp only [World.step, deliver]
    split
    · exact Nat.le_refl _
    · rename_i command rest waiting
      rw [handleSlowly, (foldl_perform_frame _ _).2.1]
      exact generation_le_handle world.coordinator command
  | fire ticket outcome =>
    simp only [World.step]
    split
    · exact Nat.le_of_eq (congrArg _ (fire_frame timings world _ outcome).1.symm)
    · exact Nat.le_refl _
  | wait span => exact Nat.le_refl _

theorem World.generation_le_run (timings : Timings) (world : World) (before after : List Step) :
    (world.run timings before).coordinator.generation ≤
      (world.run timings (before ++ after)).coordinator.generation := by
  induction after using List.reverseRecOn with
  | nil => exact Nat.le_of_eq (by rw [List.append_nil])
  | append_singleton after step ih =>
    rw [← List.append_assoc, run_concat]
    exact Nat.le_trans ih (generation_le_step _ step)

/-- After one more step the current round has been abandoned if it was before, or if this very step
abandoned it. -/
theorem abandoned_concat (steps : List World.Step) (step : World.Step) :
    Abandoned timings (steps ++ [step]) ↔
      LostAfter (World.run timings {} steps).coordinator (World.run timings {} steps)
        (World.run timings {} (steps ++ [step])).coordinator (Abandoned timings steps) := by
  constructor
  · rintro ⟨before, fatal, after, parts, gone, same⟩
    induction after using List.reverseRecOn with
    | nil =>
      obtain ⟨rfl, last⟩ := List.append_inj' parts rfl
      cases last
      refine ⟨same.symm, Or.inr ?_⟩
      rw [World.run_concat]
      exact gone
    | append_singleton after last _ =>
      rw [← List.cons_append, ← List.append_assoc] at parts
      obtain ⟨rfl, _⟩ := List.append_inj' parts rfl
      -- Rounds only follow one another, so a round that is current in the end was so all the time.
      have early := World.generation_le_run timings {} before (fatal :: after)
      have late := World.generation_le_run timings {} (before ++ fatal :: after) [step]
      rw [← same] at late
      have current := Nat.le_antisymm early late
      exact ⟨same.symm.trans current, Or.inl ⟨before, fatal, after, rfl, gone, current⟩⟩
  · rintro ⟨same, ⟨before, fatal, after, rfl, gone, current⟩ | gone⟩
    · refine ⟨before, fatal, after ++ [step], ?_, gone, current.trans same.symm⟩
      rw [List.append_assoc, List.cons_append]
    · rw [World.run_concat] at gone
      exact ⟨steps, step, [], rfl, gone, same.symm⟩

/-- **Every run keeps the account.** -/
theorem accounted_of_run (timings : Timings) (steps : List World.Step) :
    Accounted (World.run timings {} steps) (Abandoned timings steps) := by
  induction steps using List.reverseRecOn with
  | nil =>
    refine Accounted.initial.congr_lost (iff_of_false ?_ id)
    rintro ⟨before, step, after, parts, _⟩
    exact absurd parts.symm (List.append_ne_nil_of_right_ne_nil _ (List.cons_ne_nil _ _))
  | append_singleton steps step ih =>
    refine Accounted.congr_lost ?_ (abandoned_concat steps step)
    rw [World.run_concat]
    exact ih.step step

/-- A round that is running has not been ended. -/
theorem not_abandoned_of_running {steps : List World.Step}
    (running : (World.run timings {} steps).coordinator.phase = .running) :
    ¬ Abandoned timings steps := fun gone =>
  ((accounted_of_run timings steps).balanced.lost gone).2.2 running

/-! ### At most one load, and one when it is needed -/

/-- **The loads of the current round.** In every state that a run reaches, whatever was asked,
however the fetches went, and whichever timers came due in which order, the current round has at
most one load. While it is running, has not expired and shows no puzzle, it has exactly one. -/
theorem loads_of_run (timings : Timings) (steps : List World.Step) :
    let world := World.run timings {} steps
    let view := world.coordinator.snapshot world.now
    world.loads world.coordinator.generation ≤ 1 ∧
      (view.phase = .running → 0 < view.remaining → view.puzzle = none →
        world.loads world.coordinator.generation = 1) := by
  intro world view
  have accounted : Accounted world (Abandoned timings steps) := accounted_of_run timings steps
  refine ⟨accounted.balanced.loads_le_one, fun running left missing => ?_⟩
  have running : world.coordinator.phase = .running := (view_phase ..).symm.trans running
  obtain ⟨_, round, present, _⟩ := accounted.coherent.running running
  have missing : round.puzzle = none := by
    have hidden := (view_puzzle ..).symm.trans missing
    rwa [present, Option.bind_some] at hidden
  have left : 0 < round.remaining world.now := by
    have ticking := Nat.lt_of_lt_of_eq left (view_remaining ..)
    rwa [present, Option.elim_some] at ticking
  rw [accounted.balanced.kept (not_abandoned_of_running running)]
  -- The round could only do without a load by having expired.
  rcases accounted.awaits round running present missing with loading | expired
  · rw [loading]
    rfl
  · exact absurd (beq_iff_eq.mp expired) (Nat.ne_of_gt left)

/-- After a failed fetch the load is the wait for the retry. -/
theorem loads_of_run_failed :
    let world := World.run .standard {}
      [.ask (.start (.fresh "ann")), .deliver [], .fire 1 none, .deliver [], .wait 1]
    world.retries world.coordinator.generation = 1 ∧
      world.loads world.coordinator.generation = 1 := by
  refine ⟨by decide, (loads_of_run .standard _).2 ?_ ?_ ?_⟩
  · decide
  · decide
  · decide

/-! ### When the flag is faithful -/

/-- **The flag tells whether the current round has a load, until the round is ended while its retry
is set.** From then on, for as long as no other round is started, the flag stays although there is
no load. -/
theorem loading_of_run (timings : Timings) (steps : List World.Step) :
    let world := World.run timings {} steps
    let flag := (world.coordinator.snapshot world.now).loading
    (¬ Abandoned timings steps →
        (flag = true ↔ 0 < world.loads world.coordinator.generation)) ∧
      (Abandoned timings steps →
        flag = true ∧ world.loads world.coordinator.generation = 0) := by
  intro world flag
  have accounted : Accounted world (Abandoned timings steps) := accounted_of_run timings steps
  have told : flag = world.coordinator.loading := snapshot_loading accounted.coherent world.now
  rw [told]
  constructor
  · intro found
    rw [accounted.balanced.kept found]
    cases world.coordinator.loading <;> decide
  · intro gone
    exact ⟨(accounted.balanced.lost gone).2.1, (accounted.balanced.lost gone).1⟩

/-- A round is started, its first fetch fails, and the round is ended before the retry is due. -/
def endedInWait : List World.Step :=
  [.ask (.start (.fresh "ann")), .deliver [], .fire 1 none, .deliver [], .ask .finish, .deliver []]

/-- The flag is right while the first fetch is under way, and wrong in the end. -/
theorem loading_of_run_endedInWait :
    let fetching := World.run .standard {} (endedInWait.take 2)
    let ended := World.run .standard {} endedInWait
    (fetching.coordinator.snapshot fetching.now).loading = true ∧
      (ended.coordinator.snapshot ended.now).loading = true ∧
      ended.loads ended.coordinator.generation = 0 := by
  have running : ¬ Abandoned .standard (endedInWait.take 2) :=
    not_abandoned_of_running (by decide)
  have abandoned : Abandoned .standard endedInWait :=
    ⟨endedInWait.take 5, .deliver [], [], rfl, ⟨by decide, by decide, by decide⟩, by decide⟩
  refine ⟨((loading_of_run .standard _).1 running).mpr (by decide), ?_⟩
  exact (loading_of_run .standard _).2 abandoned

/-- The flag is not faithful in every state: in this one nothing is under way and nothing waits to
be handled, and yet the flag is set. -/
theorem loading_not_faithful :
    let world := World.run .standard {} endedInWait
    world.tasks = [] ∧ world.mailbox = [] ∧ world.coordinator.phase = .ended ∧
      ¬ ((world.coordinator.snapshot world.now).loading = true ↔
        0 < world.loads world.coordinator.generation) := by
  decide

end TimedQuiz.Coordinator
