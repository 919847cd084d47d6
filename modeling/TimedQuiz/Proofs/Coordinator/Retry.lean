/-
**A round is given its puzzle, or time runs out.**

After a start that nobody follows up with another request, some fetches fail, each followed by a
wait, and the next one brings a puzzle. All that matters is how long this takes in all.

* `Trial.Trying.step`: every step leaves the round standing as `Trial.Trying` says.
* `trying_of_run`: so it stands like that in the whole run after its start.
* `retries_of_run`: if the puzzle comes before the time of the round is up, it is loaded when it
  comes, and the source has been called once for each failure and once more; otherwise no puzzle is
  loaded, the end is announced once, and no fetch is started once the time is up.
-/

import TimedQuiz.Proofs.Coordinator.Rest
import TimedQuiz.Proofs.Coordinator.Retry.Stage
import TimedQuiz.Proofs.Coordinator.Shift

namespace TimedQuiz.Coordinator

/-! ### Times and what they tell -/

/-- A load of the current round that comes to be handled is the only one. -/
theorem Accounted.alone {world : World} {lost : Prop} (accounted : Accounted world lost)
    {command : Command} {rest : List Command} (waiting : world.mailbox = command :: rest)
    (load : command.isLoadOf world.coordinator.generation = true) :
    world.coordinator.loading = true ∧
      (∀ task ∈ world.tasks, task.isLoadOf world.coordinator.generation = false) ∧
        ∀ other ∈ rest, other.isLoadOf world.coordinator.generation = false := by
  let taken : World := { world with mailbox := rest }
  have tasks : taken.tasks = world.tasks := rfl
  have loads := (accounted.taking waiting tasks rfl).2 world.coordinator.generation
  rw [load] at loads
  obtain ⟨-, none, loading⟩ := accounted.balanced.of_arrival loads
  rw [World.loads, Nat.add_eq_zero_iff] at none
  refine ⟨loading, fun task member => ?_, fun other member => ?_⟩
  · exact eq_false_of_ne_true (List.countP_eq_zero.mp none.1 task member)
  · exact eq_false_of_ne_true (List.countP_eq_zero.mp none.2 other member)

namespace Trial.Trying

variable {trial : Trial} {number : Nat} {c : Coordinator} {world : World} {lost : Prop}

/-- While the flag is set, the round has a load, under way or waiting. -/
theorem exists_load (trying : trial.Trying number c world) (balanced : Balanced c world lost)
    (running : c.phase = .running) (loading : c.loading = true) :
    (∃ task ∈ world.tasks, task.isLoadOf trial.generation = true) ∨
      ∃ command ∈ world.mailbox, command.isLoadOf trial.generation = true := by
  have loads := balanced.kept fun gone => (balanced.lost gone).2.2 running
  rw [loading, trying.generation, World.loads] at loads
  rcases Nat.eq_zero_or_pos (world.tasks.countP (Task.isLoadOf trial.generation)) with none | some
  · rw [none, Nat.zero_add] at loads
    have some : 0 < world.mailbox.countP (Command.isLoadOf trial.generation) := by
      rw [loads]
      exact Nat.one_pos
    exact Or.inr (List.countP_pos_iff.mp some)
  · exact Or.inl (List.countP_pos_iff.mp some)

/-- While the flag is set, the time at which the last fetch completes is not past. -/
theorem ahead (trying : trial.Trying number c world) (balanced : Balanced c world lost)
    (onTime : world.OnTime trial.timings trial.script) (running : c.phase = .running)
    (loading : c.loading = true) : world.now ≤ trial.arrives trial.failures := by
  rcases trying.exists_load balanced running loading with ⟨task, member, load⟩ | ⟨_, waits, load⟩
  · exact Nat.le_trans (onTime task member) (trying.due_le member load)
  · exact trying.now_le waits load

/-- The log tells when the round was opened. -/
theorem start_eq (trying : trial.Trying number c world)
    (counting : Counting trial.timings c world) (running : c.phase = .running) {start : Span}
    (on : Timeline.opened? world.log = some start) : trial.start = start := by
  obtain ⟨round, present, clock⟩ := Option.map_eq_some_iff.mp trying.clock
  have opened := (counting.clocked.running round running present).1
  rw [on, clock, Option.some.injEq] at opened
  exact opened.symm

/-- The countdown brings the end when the time is up. -/
theorem up_of_expired (trying : trial.Trying number c world) (ticks : 0 < trial.timings.tick)
    (counting : Counting trial.timings c world) (running : c.phase = .running)
    {rest : List Command} (waiting : world.mailbox = .expired c.generation :: rest) :
    trial.deadline ≤ world.now := by
  obtain ⟨start, on, stage⟩ := counting.running running
  obtain rfl := trying.start_eq counting running on
  rw [(expired_told waiting stage).1]
  exact trial.timings.le_look_lastLook trial.start ticks

/-- Nothing is asked for. -/
theorem unasked (trying : trial.Trying number c world) : world.Unasked := by
  intro command waits
  have expected := trying.mailbox command waits
  cases command with
  | fetched of outcome => rfl
  | retryDue of => rfl
  | followUpDue of sequence => rfl
  | tick of remaining => rfl
  | expired of => rfl
  | _ => exact expected.elim

/-- No fetch is started once the time is up. -/
theorem made_early (trying : trial.Trying number c world) :
    ∀ call ∈ trial.made world, call < trial.deadline := by
  intro call among
  rw [trying.made] at among
  obtain ⟨earlier, before, rfl⟩ := List.mem_map.mp among
  have order := trial.begins_mono (Nat.le_of_lt_succ (List.mem_range.mp before))
  exact Nat.lt_of_le_of_lt order trying.inTime

/-- After the last look the round is over. -/
theorem over_of_late (trying : trial.Trying number c world)
    (counting : Counting trial.timings c world)
    (late : trial.timings.look trial.start trial.timings.lastLook < world.now) :
    c.phase ≠ .running := by
  intro running
  obtain ⟨start, on, stage⟩ := counting.running running
  obtain rfl := trying.start_eq counting running on
  exact absurd late (Nat.not_lt_of_le stage.now_le)

/-! ### Every step -/

/-- **Every step that nobody asks for leaves the round standing like that.** -/
theorem step (trying : trial.Trying number world.coordinator world) (fits : trial.Fits)
    (ticks : 0 < trial.timings.tick) (accounted : Accounted world lost)
    (counting : Counting trial.timings world.coordinator world)
    (onTime : world.OnTime trial.timings trial.script) {step : World.Step}
    (silent : ∀ request, step ≠ .ask request) (exact : world.Exact step)
    (answered : world.Answered trial.timings trial.script step) :
    ∃ following, trial.Trying following (world.step trial.timings step).coordinator
      (world.step trial.timings step) := by
  cases step with
  | ask request => exact absurd rfl (silent request)
  | deliver pauses =>
    obtain rfl : pauses = [] := exact
    simp only [World.step, World.deliver]
    split
    · exact ⟨number, trying⟩
    · rename_i command rest waiting
      let handled := world.coordinator.handle trial.timings (.still world.now) command
      let base : World := { world with mailbox := rest, coordinator := handled.2.1 }
      have among : ∀ other ∈ rest, other ∈ world.mailbox := fun other member =>
        waiting ▸ List.mem_cons_of_mem _ member
      have taken : trial.Trying number world.coordinator base :=
        trying.goesOn rfl rfl rfl rfl (List.append_nil _).symm
          (fun _ impossible => by cases impossible) rfl trying.tasks
          fun other member => trying.mailbox other (among other member)
      have expected : trial.Expected number base.now command :=
        trying.mailbox command (waiting ▸ List.mem_cons_self)
      have goes : ∃ following, trial.Trying following handled.2.1
          (handled.2.2.foldl World.perform base) := by
        refine taken.handled fits accounted.coherent expected (fun load => ?_)
          fun ends running => ⟨?_, ?_⟩
        · rw [← trying.generation] at load ⊢
          exact accounted.alone waiting load
        · rw [ends, ← trying.generation] at waiting
          exact trying.up_of_expired ticks counting running waiting
        · exact trying.ahead accounted.balanced onTime running
      rw [World.handleSlowly, (World.foldl_perform_frame _ _).2.1]
      exact goes
  | fire ticket outcome =>
    rw [World.step]
    split
    · rename_i task found
      have member := List.mem_of_find?_eq_some found
      have same : task.ticket = ticket := by simpa using List.find?_some found
      rw [(World.fire_frame trial.timings world task outcome).1]
      exact ⟨number, trying.fire member (exact task member same) (answered task member same)⟩
    · exact ⟨number, trying⟩
  | wait span =>
    obtain ⟨empty, -⟩ := exact
    refine ⟨number, trying.goesOn rfl rfl rfl rfl (List.append_nil _).symm
      (fun _ impossible => by cases impossible) rfl trying.tasks fun command waits => ?_⟩
    rw [show (world.step trial.timings (.wait span)).mailbox = [] from empty] at waits
    cases waits

end Trial.Trying

/-! ### The start -/

/-- The round that a start opens in the world as it is, and the fetches that are expected in it. -/
def Trial.upcoming (timings : Timings) (script : Script) (world : World) (failures : Nat)
    (puzzle : Puzzle) : Trial where
  timings := timings
  script := script
  start := world.now
  generation := world.coordinator.generation + 1
  entries := world.log.length
  calls := world.calls.length
  failures := failures
  puzzle := puzzle

section Start

variable {timings : Timings} {script : Script} {world : World} {player : Player}
  {rest : List Command}

/-- A start between rounds opens a round, whose first look and first fetch are under way at once. -/
theorem World.deliver_start (lasts : 0 < timings.round)
    (resting : world.coordinator.phase = .idle ∨ world.coordinator.phase = .ended)
    (waiting : world.mailbox = .start player :: rest) :
    let c := world.coordinator
    let clock : Clock := { startedAt := world.now, duration := timings.round }
    world.deliver timings [] =
      { now := world.now
        coordinator := { c.opened timings player world.now with
          loading := true
          nextTicket := c.nextTicket + 2 }
        tasks := world.tasks.filter (fun task => decide (task.ticket ∉ c.timers)) ++
          [{ ticket := c.nextTicket
             since := world.now
             job := .countDown (c.generation + 1) clock world.now },
           { ticket := c.nextTicket + 1
             since := world.now
             job := .fetch (c.generation + 1) world.calls.length }]
        mailbox := rest
        log := world.log ++ [(world.now, .roundStarted player)]
        calls := world.calls ++ [world.now] } := by
  intro c clock
  let opened := c.opened timings player world.now
  have active : (Round.openedAt player timings.round world.now).isActive world.now = true := by
    refine Round.isActive_iff.mpr ⟨rfl, ?_⟩
    show world.now - world.now < timings.round
    unfold Span
    rwa [Nat.sub_self]
  have asked : opened.requestNext world.now = (.started,
      { opened with loading := true, nextTicket := c.nextTicket + 2 },
      [.fetch (c.nextTicket + 1) (c.generation + 1)]) := if_pos active
  have begins : (c.handle timings (.still world.now) (.start player)).2 =
      ((opened.requestNext world.now).2.1, c.cancelTimers.2 ++
        c.openingEffects timings player world.now ++ (opened.requestNext world.now).2.2) :=
    congrArg Prod.snd (start_of_resting resting)
  let quiet : World := { world with mailbox := rest, coordinator := { opened with
    loading := true, nextTicket := c.nextTicket + 2 } }
  have cancelled : c.cancelTimers.2.foldl World.perform quiet =
      { quiet with tasks := world.tasks.filter fun task => decide (task.ticket ∉ c.timers) } :=
    World.cancelled_eq quiet c.timers
  have delivered : world.deliver timings [] =
      (c.handle timings (.still world.now) (.start player)).2.2.foldl World.perform
        { world with
          mailbox := rest
          coordinator := (c.handle timings (.still world.now) (.start player)).2.1 } := by
    rw [World.deliver, waiting]
    rfl
  rw [delivered, begins, asked, List.append_assoc, List.foldl_append, cancelled]
  simp only [openingEffects, List.cons_append, List.nil_append, List.foldl_cons, List.foldl_nil,
    World.perform, World.spawn, List.append_assoc]
  rfl

/-- Work of earlier rounds is no concern of the round. -/
theorem Trial.OnCourse.of_earlier {trial : Trial} {number : Nat} {task : Task}
    (earlier : task.job.BelongsTo (· < trial.generation)) : trial.OnCourse number task := by
  obtain ⟨ticket, since, job⟩ := task
  cases job with
  | fetch of call => exact fun same => absurd same (Nat.ne_of_lt earlier)
  | countDown of clock due => trivial
  | reminder due command =>
    cases command with
    | retryDue of => exact fun same => absurd same (Nat.ne_of_lt earlier)
    | followUpDue of sequence => exact Nat.ne_of_lt earlier
    | _ => exact earlier.elim

theorem Trial.Expected.of_earlier {trial : Trial} {number : Nat} {now : Span} {command : Command}
    (earlier : command.BelongsTo (· < trial.generation)) (unasked : command.isRequest = false) :
    trial.Expected number now command := by
  cases command with
  | fetched of outcome => exact fun same => absurd same (Nat.ne_of_lt (earlier of rfl))
  | retryDue of => exact fun same => absurd same (Nat.ne_of_lt (earlier of rfl))
  | followUpDue of sequence => exact Nat.ne_of_lt (earlier of rfl)
  | tick of remaining => trivial
  | expired of => trivial
  | _ => cases unasked

/-- **Once it has been opened, the round stands as `Trial.Trying` says**, with its first fetch under
way. -/
theorem Trial.Trying.started (failures : Nat) (puzzle : Puzzle) (lasts : 0 < timings.round)
    (coherent : Coherent world.coordinator) (dated : Dated world.coordinator world)
    (resting : world.coordinator.phase ≠ .running)
    (waiting : world.mailbox = .start player :: rest)
    (unasked : ∀ command ∈ rest, command.isRequest = false) :
    (Trial.upcoming timings script world failures puzzle).Trying 0
      (world.deliver timings []).coordinator (world.deliver timings []) := by
  have earlier : world.BelongsTo (· < world.coordinator.generation + 1) :=
    dated.belongs.mono fun _ opened => Nat.lt_succ_of_le opened.2
  let trial := Trial.upcoming timings script world failures puzzle
  have untold : trial.told world = [] := List.drop_length
  have unseen : trial.shown world = [] := by
    rw [Trial.shown, untold]
    rfl
  have on : trial.ends world = 0 := by
    rw [Trial.ends, untold]
    rfl
  have uncalled : trial.made world = [] := List.drop_length
  rw [World.deliver_start lasts (coherent.between_rounds resting) waiting]
  refine
    { generation := rfl
      clock := rfl
      bound := Nat.zero_le _
      inTime := Nat.lt_add_of_pos_right lasts
      entries := ?_
      called := List.length_append
      made := ?_
      tasks := fun task member => ?_
      mailbox := fun command member => ?_
      standing := .loading rfl rfl ?_ ?_ }
  · rw [List.length_append]
    exact Nat.le_add_right _ _
  · rw [Trial.made_append (Nat.le_refl _) rfl, uncalled]
    rfl
  · rcases List.mem_append.mp member with old | new
    · exact .of_earlier (earlier.tasks task (List.mem_filter.mp old).1)
    · rcases List.mem_pair.mp new with rfl | rfl
      · trivial
      · exact fun _ => ⟨rfl, rfl⟩
  · have waited : command ∈ world.mailbox := waiting ▸ List.mem_cons_of_mem _ member
    exact .of_earlier (earlier.mailbox command waited) (unasked command member)
  · rw [Trial.shown_append (Nat.le_refl _) rfl, unseen]
    rfl
  · rw [Trial.ends_append (Nat.le_refl _) rfl, on]
    rfl

end Start

/-! ### What the script holds for the round -/

namespace Attempt

/-- The fetch fails, or its answer takes longer than the limit. -/
def Fails (limit : Span) (attempt : Attempt) : Prop :=
  match attempt.delay with
  | some delay => delay < limit ∧ attempt.outcome = none ∨ limit < delay
  | none => True

instance (limit : Span) : DecidablePred (Fails limit)
  | ⟨some delay, outcome⟩ =>
    inferInstanceAs (Decidable (delay < limit ∧ outcome = none ∨ limit < delay))
  | ⟨none, _⟩ => inferInstanceAs (Decidable True)

variable {limit : Span} {attempt : Attempt}

theorem Fails.result (fails : attempt.Fails limit) : attempt.result limit = none := by
  obtain ⟨delay, outcome⟩ := attempt
  cases delay with
  | none => rfl
  | some delay =>
    rcases fails with ⟨early, failed⟩ | late
    · exact (if_pos (Nat.le_of_lt early)).trans failed
    · exact if_neg (Nat.not_le_of_lt late)

end Attempt

/-- After some answers comes the next. -/
theorem Script.attempt_length (before after : Script) (attempt : Attempt) :
    Script.attempt (before ++ attempt :: after) before.length = attempt := by
  simp [Script.attempt]

namespace Trial

variable {trial : Trial}

/-- The fetches of the round follow what is left of the script when it is opened. -/
theorem attempt_eq {answers : Script} (held : trial.script.drop trial.calls = answers)
    (number : Nat) : trial.attempt number = answers.attempt number := by
  rw [attempt, Script.attempt, Script.attempt, ← held, List.getD_eq_getElem?_getD,
    List.getD_eq_getElem?_getD, List.getElem?_drop]

/-- Each failure takes its time, and so does the wait after it. -/
theorem begins_eq {failures : List Attempt} {answers : Script}
    (held : trial.script.drop trial.calls = failures ++ answers) :
    trial.begins failures.length = trial.start + (failures.map fun attempt =>
      attempt.latency trial.timings.fetchTimeout + trial.timings.retryDelay).sum := by
  induction failures using List.reverseRecOn generalizing answers with
  | nil => rfl
  | append_singleton failures attempt ih =>
    rw [List.append_assoc, List.singleton_append] at held
    have answer : trial.attempt failures.length = attempt := by
      rw [attempt_eq held, Script.attempt_length]
    have before := ih held
    rw [List.length_append, List.map_append, List.sum_append, ← Nat.add_assoc, ← before]
    show trial.begins failures.length + trial.latency failures.length +
      trial.timings.retryDelay = _
    rw [latency, answer, Nat.add_assoc]
    rfl

section Held

variable {failures : List Attempt} {latency : Span} {more : Script}
  (held : trial.script.drop trial.calls =
    failures ++ { delay := some latency, outcome := some trial.puzzle } :: more)
  (counted : trial.failures = failures.length)
  (brings : latency < trial.timings.fetchTimeout)
include held counted brings

theorem fits_of_held (lasts : 0 < trial.timings.round)
    (fails : ∀ attempt ∈ failures, attempt.Fails trial.timings.fetchTimeout) : trial.Fits where
  lasts := lasts
  fails number before := by
    rw [counted] at before
    have answer : trial.attempt number = failures[number] := by
      rw [attempt_eq held, Script.attempt, List.getD_eq_getElem?_getD,
        List.getElem?_append_left before, List.getElem?_eq_getElem before, Option.getD_some]
    rw [answer]
    exact (fails _ (List.getElem_mem before)).result
  brings := by
    rw [counted, attempt_eq held, Script.attempt_length]
    exact if_pos (Nat.le_of_lt brings)

theorem arrives_of_held :
    trial.arrives trial.failures = trial.start + ((failures.map fun attempt =>
      attempt.latency trial.timings.fetchTimeout + trial.timings.retryDelay).sum + latency) := by
  have answer : trial.latency failures.length = latency := by
    rw [Trial.latency, attempt_eq held, Script.attempt_length]
    exact Nat.min_eq_left (Nat.le_of_lt brings)
  rw [counted, arrives, begins_eq held, answer, Nat.add_assoc]

end Held
end Trial

/-! ### Runs -/

/-- A run on an exact clock, with fetches that follow a script, in which a round is started that
nobody asks anything of. -/
structure Lone (timings : Timings) (script : Script) (player : Player)
    (earlier later : List World.Step) : Prop where
  scripted : Scripted timings script (earlier ++ .deliver [] :: later)
  resting : (World.run timings {} earlier).coordinator.phase ≠ .running
  starts : ∃ rest, (World.run timings {} earlier).mailbox = .start player :: rest ∧
    ∀ command ∈ rest, command.isRequest = false
  silent : ∀ request, .ask request ∉ later

section Run

variable {timings : Timings} {script : Script} {player : Player} {earlier later : List World.Step}

/-- **The round stands as `Trial.Trying` says from its start on.** -/
theorem trying_of_run (ticks : 0 < timings.tick) {failures : Nat} {puzzle : Puzzle}
    (fits : (Trial.upcoming timings script (World.run timings {} earlier) failures puzzle).Fits)
    (lone : Lone timings script player earlier later) :
    let world := World.run timings {} (earlier ++ .deliver [] :: later)
    ∃ number, (Trial.upcoming timings script (World.run timings {} earlier) failures
      puzzle).Trying number world.coordinator world := by
  induction later using List.reverseRecOn with
  | nil =>
    obtain ⟨rest, waiting, unasked⟩ := lone.starts
    rw [World.run_concat]
    exact ⟨0, .started failures puzzle fits.lasts (accounted_of_run timings earlier).coherent
      (dated_of_run timings earlier) lone.resting waiting unasked⟩
  | append_singleton later step ih =>
    have parts : earlier ++ .deliver [] :: (later ++ [step]) =
        (earlier ++ .deliver [] :: later) ++ [step] := by simp
    have scripted := lone.scripted
    rw [parts] at scripted ⊢
    obtain ⟨exact, answered⟩ := scripted.last
    have before : Scripted timings script (earlier ++ .deliver [] :: later) := scripted.init
    obtain ⟨number, trying⟩ := ih
      { scripted := before
        resting := lone.resting
        starts := lone.starts
        silent := fun request member => lone.silent request (List.mem_append_left _ member) }
    have silent : ∀ request, step ≠ .ask request := by
      rintro request rfl
      exact lone.silent request (List.mem_append_right _ (List.mem_singleton_self _))
    rw [World.run_concat]
    exact trying.step fits ticks (accounted_of_run timings _)
      (counting_of_run ticks before.punctual) (onTime_of_run before) silent exact answered

/-! ### The main result -/

/-- **A failed fetch is tried again until a puzzle comes or time runs out.** On an exact clock,
after a start that nobody follows up with a request, some fetches fail, or are not answered within
the limit, and the next one brings a puzzle.

* If all this takes less time than the round has, the puzzle is loaded when it comes, and no other;
  the source has then been called once for each failure and once more, and never is again.
* Otherwise no puzzle is loaded.
* In either case no fetch is started once the time of the round is up, and the end of the round is
  announced once, after the last look at the latest.

And every such run can go on to any later instant. -/
theorem retries_of_run {timings : Timings} {script : Script} {player : Player}
    {earlier later : List World.Step} {failures : List Attempt} {latency : Span} {puzzle : Puzzle}
    {more : Script} (ticks : 0 < timings.tick) (lasts : 0 < timings.round)
    (backs : 0 < timings.retryDelay) (lone : Lone timings script player earlier later)
    (held : script.drop (World.run timings {} earlier).calls.length =
      failures ++ { delay := some latency, outcome := some puzzle } :: more)
    (fails : ∀ attempt ∈ failures, attempt.Fails timings.fetchTimeout)
    (brings : latency < timings.fetchTimeout) :
    let opened := World.run timings {} earlier
    let world := World.run timings {} (earlier ++ .deliver [] :: later)
    let duration := (failures.map fun attempt =>
      attempt.latency timings.fetchTimeout + timings.retryDelay).sum + latency
    let told := world.log.drop opened.log.length
    let shown := told.filter fun entry => entry.2.kind == .puzzleLoaded
    let ends := told.countP fun entry => entry.2.kind == .roundEnded
    let calls := world.calls.drop opened.calls.length
    let brought := shown = [(opened.now + duration, Event.puzzleLoaded puzzle)] ∧
      calls.length = failures.length + 1
    (duration < timings.round →
        (shown = [] ∧ calls.length ≤ failures.length + 1 ∨ brought) ∧
        (opened.now + duration < world.now → brought)) ∧
      (timings.round ≤ duration → shown = []) ∧
      (∀ call ∈ calls, call < opened.now + timings.round) ∧
      ends ≤ 1 ∧
      (timings.look opened.now timings.lastLook < world.now → ends = 1) ∧
      ∀ target, world.now ≤ target → ∃ further,
        Lone timings script player earlier (later ++ further) ∧
          (World.run timings {} (earlier ++ .deliver [] :: (later ++ further))).now = target := by
  intro opened world duration told shown ends calls brought
  let trial := Trial.upcoming timings script opened failures.length puzzle
  have fits : trial.Fits := Trial.fits_of_held held rfl brings lasts fails
  have arrives : trial.arrives trial.failures = opened.now + duration :=
    Trial.arrives_of_held held rfl brings
  obtain ⟨number, trying⟩ := trying_of_run ticks fits lone
  have balanced := (accounted_of_run timings (earlier ++ .deliver [] :: later)).balanced
  have counting := counting_of_run ticks lone.scripted.punctual
  have called : calls.length = number + 1 := by
    rw [show calls = (List.range (number + 1)).map trial.begins from trying.made,
      List.length_map, List.length_range]
  refine ⟨fun inTime => ?_, fun late => ?_, trying.made_early, trying.ends_le, fun late => ?_,
    fun target early => ?_⟩
  · have early : trial.arrives trial.failures < trial.deadline :=
      arrives ▸ Nat.add_lt_add_left inTime opened.now
    rcases trying.outcome with ⟨running, loading, unseen⟩ | known | missed
    · refine ⟨Or.inl ⟨unseen, called ▸ Nat.succ_le_succ trying.bound⟩, fun arrived => ?_⟩
      have ahead := trying.ahead balanced (onTime_of_run lone.scripted) running loading
      rw [arrives] at ahead
      exact absurd arrived (Nat.not_lt_of_le ahead)
    · have done : brought := ⟨arrives ▸ known.shown, called.trans (congrArg _ known.last)⟩
      exact ⟨Or.inr done, fun _ => done⟩
    · exact absurd missed.late (Nat.not_le_of_lt early)
  · have passed : trial.deadline ≤ trial.arrives trial.failures :=
      arrives ▸ Nat.add_le_add_left late opened.now
    rcases trying.outcome with ⟨_, _, unseen⟩ | known | missed
    · exact unseen
    · exact absurd known.inTime (Nat.not_lt_of_le passed)
    · exact missed.shown
  · exact trying.ends_eq (trying.over_of_late counting late)
  · obtain ⟨further, silent, scripted, -, arrived⟩ :=
      exists_atRest ticks backs lone.scripted trying.unasked early
    rw [List.append_assoc, List.cons_append] at scripted arrived
    refine ⟨further, ⟨scripted, lone.resting, lone.starts, fun request member => ?_⟩, arrived⟩
    rcases List.mem_append.mp member with old | new
    · exact lone.silent request old
    · exact silent request new

end Run

/-- Rounds of some length, with a look at the clock every five units and three units for a fetch. -/
def brisk (round : Span) : Timings :=
  { round, tick := 5, retryDelay := 1, followUpDelay := 2, fetchTimeout := 3 }

/-- One fetch fails after one unit, one is never answered, and one brings a puzzle. -/
def patchy : Script :=
  [{ delay := some 1, outcome := none }, .never,
    { delay := some 1, outcome := some { image := [], solution := 4 } }]

/-- A round in which all these fetches are made, up to its last look and beyond. -/
def persistent : List World.Step :=
  [.fire 0 none, .deliver [], .wait 1, .fire 1 none, .deliver [], .wait 1, .fire 2 none,
    .deliver [], .wait 3, .fire 0 none, .fire 3 none, .deliver [], .deliver [], .wait 1,
    .fire 4 none, .deliver [], .wait 1, .fire 5 (some { image := [], solution := 4 }),
    .deliver [], .wait 3, .fire 0 none, .deliver [], .deliver [], .wait 1]

/-- The puzzle comes after seven units. A round of eight units shows it, and one of seven does not,
and ends at its last look. -/
theorem retries_of_run_patchy :
    let start : World.Step := .ask (.start (.fresh "ann"))
    let ended (round : Span) := World.run (brisk round) {} (start :: .deliver [] :: persistent)
    let shown (round : Span) := (ended round).log.filter fun entry => entry.2.kind == .puzzleLoaded
    shown 8 = [(7, .puzzleLoaded { image := [], solution := 4 })] ∧
      (ended 8).calls.length = 3 ∧ shown 7 = [] ∧
      ((ended 7).log.countP fun entry => entry.2.kind == .roundEnded) = 1 := by
  intro start ended shown
  have lone (round : Span) (scripted : Scripted (brisk round) patchy
      ([start] ++ .deliver [] :: persistent)) :
      Lone (brisk round) patchy (.fresh "ann") [start] persistent :=
    { scripted
      resting := fun impossible => (by cases impossible)
      starts := ⟨[], rfl, fun _ impossible => (by cases impossible)⟩
      silent := fun request => by simp [persistent] }
  have held (round : Span) : patchy.drop (World.run (brisk round) {} [start]).calls.length =
      patchy.take 2 ++
        [{ delay := some 1, outcome := some { image := [], solution := 4 } }] := rfl
  have inTime := retries_of_run (by decide) (by decide) (by decide) (lone 8 (by decide)) (held 8)
    (by decide) (by decide)
  have late := retries_of_run (by decide) (by decide) (by decide) (lone 7 (by decide)) (held 7)
    (by decide) (by decide)
  obtain ⟨shows, calls⟩ := (inTime.1 (by decide)).2 (by decide)
  have ends := late.2.2.2.2.1 (by decide)
  exact ⟨shows, calls, late.2.1 (by decide), ends⟩

end TimedQuiz.Coordinator
