/-
**The countdown of a round, on an exact clock.**

Whatever else happens to a round:

* `countdown_of_run`: the time left is announced at each multiple of the period for as long as the
  round is on, and always the right time; no round outlasts the last look; and the end that the
  countdown brings comes exactly at the last look, right after the news that no time is left.
-/

import TimedQuiz.Proofs.Coordinator.Countdown.Counting

namespace TimedQuiz.Coordinator

open Timeline (opened? looks started)

variable {timings : Timings} {c next : Coordinator} {world : World}

/-! ### Work coming due -/

namespace World

theorem countdowns_drop (world : World) (ticket : Nat) :
    (world.drop ticket).countdowns =
      world.countdowns.filter fun found => found.ticket != ticket := by
  rw [countdowns, drop, List.filter_filter, countdowns, List.filter_filter]
  exact List.filter_congr fun _ _ => Bool.and_comm ..

/-- Work that is no countdown may go. -/
theorem countdowns_drop_other (sound : Sound c world) {task : Task} (member : task ∈ world.tasks)
    (other : task.isCountdown = false) :
    (world.drop task.ticket).countdowns = world.countdowns := by
  rw [countdowns_drop]
  refine List.filter_eq_self.mpr fun found among => ?_
  obtain ⟨within, isCountdown⟩ := List.mem_filter.mp among
  rw [bne_iff_ne]
  intro same
  rw [sound.eq_of_ticket member within same, other] at isCountdown
  cases isCountdown

/-- A countdown that has come to its end leaves none. -/
theorem countdowns_drop_alone {task : Task} (alone : world.countdowns = [task]) :
    (world.drop task.ticket).countdowns = [] := by
  rw [countdowns_drop, alone]
  exact List.filter_cons_of_neg fun different => bne_iff_ne.mp different rfl

/-- A countdown that goes on is still the countdown it was. -/
theorem countdowns_replace (sound : Sound c world) {task : Task} (member : task ∈ world.tasks)
    (isCountdown : task.isCountdown = true) (alone : world.countdowns = [task])
    (generation : Nat) (clock : Clock) (due : Span) :
    (world.replace task.ticket (.countDown generation clock due)).countdowns =
      [{ ticket := task.ticket, since := world.now, job := .countDown generation clock due }] := by
  rw [countdowns, replace, List.filter_map]
  have same : world.tasks.filter (Task.isCountdown ∘ fun found =>
      if found.ticket = task.ticket then
        { ticket := task.ticket, since := world.now, job := .countDown generation clock due }
      else found) = world.countdowns := by
    refine List.filter_congr fun found among => ?_
    rw [Function.comp_apply]
    split
    · rename_i shared
      rw [sound.eq_of_ticket member among shared, isCountdown]
      rfl
    · rfl
  rw [same, alone, List.map_singleton, if_pos rfl]

end World

/-- **At a look the countdown goes on by one period, or comes to its end.** -/
theorem Stage.looked {start : Span} (stage : Stage timings start c world) (sound : Sound c world)
    (ticks : 0 < timings.tick) {task : Task} (among : task ∈ world.countdowns)
    (onTime : ∀ due ∈ task.job.due?, due = world.now) (outcome : Option Puzzle) :
    Stage timings start c (world.fire timings task outcome) := by
  obtain ⟨member, isCountdown⟩ := List.mem_filter.mp among
  cases stage with
  | @waiting ticket since held ticking quiet past ahead within =>
    have alone : world.countdowns = [task] := by
      rw [ticking] at among ⊢
      rw [List.mem_singleton.mp among]
    rw [ticking] at among
    obtain rfl := List.mem_singleton.mp among
    have present : world.now = timings.look start (looks world.log) := (onTime _ rfl).symm
    have remaining := timings.remaining_look start (looks world.log)
    rw [← present] at remaining
    simp only [World.fire, remaining]
    split
    · rename_i up
      have last := Nat.le_antisymm within ((Timings.left_eq_zero_iff ticks).mp up)
      have mailbox : (((world.post (.tick c.generation 0)).drop ticket).post
          (.expired c.generation)).mailbox =
            world.mailbox ++ .tick c.generation 0 :: .expired c.generation :: [] :=
        List.append_assoc ..
      rw [up]
      refine .spent (World.countdowns_drop_alone alone) mailbox ?_ present last
      rwa [List.append_nil]
    · rename_i left
      have within : looks world.log < timings.lastLook :=
        Nat.lt_of_not_le fun late => left ((Timings.left_eq_zero_iff ticks).mpr late)
      have next : World.nextLook timings.tick (timings.look start (looks world.log)) world.now =
          timings.look start (looks world.log + 1) := by
        rw [World.nextLook, present, if_pos (Nat.le_add_right _ _), Timings.look_succ]
      rw [next]
      have again := World.countdowns_replace
        (sound.post (.tick c.generation (timings.round - looks world.log * timings.tick))
          fun _ impossible => by cases impossible)
        member isCountdown alone c.generation
        { startedAt := start, duration := timings.round } (timings.look start (looks world.log + 1))
      refine .found held again rfl ?_ present within
      rwa [List.append_nil]
  | found held ticking mailbox quiet present within =>
    rw [ticking] at among
    obtain rfl := List.mem_singleton.mp among
    -- The next look is one period ahead.
    have ahead := (timings.look_lt_look start ticks).mpr (Nat.lt_succ_self (looks world.log))
    rw [← present, onTime _ rfl] at ahead
    exact absurd ahead (Nat.lt_irrefl _)
  | spent done =>
    rw [done] at among
    cases among
  | told done =>
    rw [done] at among
    cases among

/-- Time goes by, but nothing that waits is passed over. -/
theorem Stage.wait {start : Span} (stage : Stage timings start c world) {span : Span}
    (empty : world.mailbox = [])
    (ahead : ∀ task ∈ world.tasks, ∀ due ∈ task.job.due?, world.now + span ≤ due) :
    Stage timings start c { world with now := world.now + span } := by
  -- News of the countdown would wait in the mailbox.
  cases stage with
  | waiting held ticking quiet past _ within =>
    have among := List.mem_filter.mp (ticking.symm ▸ List.mem_singleton_self _)
    exact .waiting held ticking quiet
      (fun number before => Nat.le_trans (past number before) (Nat.le_add_right _ _))
      (ahead _ among.1 _ rfl) within
  | found held ticking mailbox =>
    rw [empty] at mailbox
    exact absurd mailbox.symm (List.append_ne_nil_of_right_ne_nil _ (List.cons_ne_nil _ _))
  | spent done mailbox =>
    rw [empty] at mailbox
    exact absurd mailbox.symm (List.append_ne_nil_of_right_ne_nil _ (List.cons_ne_nil _ _))
  | told done mailbox =>
    rw [empty] at mailbox
    cases mailbox

namespace Counting

/-- Work that is no countdown sends its command. -/
theorem sent (counting : Counting timings c world) (sound : Sound c world) {task : Task}
    (member : task ∈ world.tasks) (other : task.isCountdown = false) {command : Command}
    (silent : command.isNewsOf c.generation = false) :
    Counting timings c ((world.drop task.ticket).post command) := by
  have same := World.countdowns_drop_other sound member other
  refine counting.staged rfl (fun gone => same.trans gone) fun _ start stage => ?_
  have dropped : Stage timings start c (world.drop task.ticket) :=
    stage.congr rfl rfl same rfl rfl rfl fun _ => rfl
  exact dropped.post silent

/-- A countdown looks at the clock. -/
theorem looked (counting : Counting timings c world) (sound : Sound c world)
    (ticks : 0 < timings.tick) {task : Task} (member : task ∈ world.tasks)
    (isCountdown : task.isCountdown = true) (onTime : ∀ due ∈ task.job.due?, due = world.now)
    (outcome : Option Puzzle) : Counting timings c (world.fire timings task outcome) := by
  have among : task ∈ world.countdowns := List.mem_filter.mpr ⟨member, isCountdown⟩
  refine counting.staged (World.log_fire timings world task outcome) (fun gone => ?_)
    fun _ start stage => stage.looked sound ticks among onTime outcome
  rw [gone] at among
  cases among

/-- **Work that comes due on time keeps the countdown on its course.** -/
theorem fire (counting : Counting timings c world) (sound : Sound c world)
    (dated : Dated c world) (ticks : 0 < timings.tick) {task : Task}
    (member : task ∈ world.tasks) (onTime : ∀ due ∈ task.job.due?, due = world.now)
    (outcome : Option Puzzle) : Counting timings c (world.fire timings task outcome) := by
  have belongs := dated.belongs.tasks task member
  cases isCountdown : task.isCountdown with
  | true => exact counting.looked sound ticks member isCountdown onTime outcome
  | false =>
    obtain ⟨ticket, since, job⟩ := task
    cases job with
    | fetch of call => exact counting.sent sound member rfl rfl
    | countDown of clock due => cases isCountdown
    | reminder due command =>
      refine counting.sent sound member rfl ?_
      cases command with
      | retryDue of => rfl
      | followUpDue of sequence => rfl
      | _ => exact belongs.elim

/-! ### Every step -/

/-- Which coordinator the world has makes no difference to the work under way. -/
theorem elsewhere (counting : Counting timings c world) (coordinator : Coordinator) :
    Counting timings c { world with coordinator } :=
  counting.staged rfl id fun _ _ stage => stage.congr rfl rfl rfl rfl rfl rfl fun _ => rfl

/-- Some command is handled. -/
theorem handled (counting : Counting timings c world) (ticks : 0 < timings.tick)
    (coherent : Coherent c) (dated : Dated c world) {command : Command}
    {rest : List Command} (waiting : world.mailbox = command :: rest) :
    Counting timings (c.handle timings (.still world.now) command).2.1
      ((c.handle timings (.still world.now) command).2.2.foldl World.perform
        { world with mailbox := rest }) := by
  cases news : command.isNewsOf c.generation with
  | false =>
    have left : Dated c { world with mailbox := rest } :=
      ⟨dated.running, dated.belongs.tasks, fun other member =>
        dated.belongs.mailbox other (waiting ▸ List.mem_cons_of_mem _ member)⟩
    by_cases running : c.phase = .running
    · obtain ⟨start, on, stage⟩ := counting.running running
      have early := (stage.take waiting news).2
      have taken : Counting timings c { world with mailbox := rest } :=
        counting.staged rfl id fun _ _ stage => (stage.take waiting news).1
      exact handle_counting rfl ticks left news (fun _ => early) taken
    · have early : Early timings c { world with mailbox := rest } :=
        fun impossible => absurd impossible running
      exact handle_counting rfl ticks left news early (counting.rests running rest)
  | true =>
    cases command with
    | tick of remaining =>
      obtain rfl := beq_iff_eq.mp news
      by_cases running : c.phase = .running
      · simp only [handle, running, and_self, if_true]
        have told := tick_counting ticks waiting running counting
        exact told
      · simp only [handle, running, and_false, if_false]
        exact counting.rests running rest
    | expired of =>
      obtain rfl := beq_iff_eq.mp news
      by_cases running : c.phase = .running
      · exact expired_counting ticks coherent running counting rest
      · simp only [handle, if_true, finish_of_resting running]
        exact counting.rests running rest
    | _ => cases news

/-- **Every step that respects an exact clock keeps the countdown on its course.** -/
theorem step (counting : Counting timings world.coordinator world) (ticks : 0 < timings.tick)
    (coherent : Coherent world.coordinator) (sound : Sound world.coordinator world)
    (dated : Dated world.coordinator world) {step : World.Step}
    (exact : world.Exact step) :
    Counting timings (world.step timings step).coordinator (world.step timings step) := by
  cases step with
  | ask request =>
    have silent : request.command.isNewsOf world.coordinator.generation = false := by
      cases request <;> rfl
    exact counting.staged rfl id fun _ _ stage => stage.post silent
  | deliver pauses =>
    obtain rfl : pauses = [] := exact
    simp only [World.step, World.deliver]
    split
    · exact counting
    · rename_i command rest waiting
      let next := (world.coordinator.handle timings (.still world.now) command).2.1
      have handled := (counting.elsewhere next).handled ticks coherent
        ⟨dated.running, dated.belongs.tasks, dated.belongs.mailbox⟩ waiting
      rw [World.handleSlowly, (World.foldl_perform_frame _ _).2.1]
      exact handled
  | fire ticket outcome =>
    rw [World.step]
    split
    · rename_i task found
      have member := List.mem_of_find?_eq_some found
      have same : task.ticket = ticket := by simpa using List.find?_some found
      rw [(World.fire_frame timings world task outcome).1]
      exact counting.fire sound dated ticks member (exact task member same) outcome
    · exact counting
  | wait span =>
    obtain ⟨empty, ahead⟩ := exact
    exact counting.staged rfl id fun _ _ stage => stage.wait empty ahead

end Counting

/-! ### The main result -/

/-- Nobody but the countdown of the round that is on makes the coordinator tell the time left. When
the countdown ends the round, it is the last look, and the news that no time is left was announced
just before. -/
def Proper (timings : Timings) (before : List (Span × Exchange)) (entry : Span × Exchange) : Prop :=
  (∀ remaining, .tick remaining ∈ entry.2.events →
    entry.2.command = .tick (started (World.told before)) remaining) ∧
  ∀ player summary, .roundEnded player summary ∈ entry.2.events →
    ∀ of, entry.2.command = .expired of →
      of = started (World.told before) ∧
        ∃ start earlier, opened? (World.told before) = some start ∧
          entry.1 = timings.look start timings.lastLook ∧
          World.told before = earlier ++ [(entry.1, .tick 0)]

theorem punctual_concat {steps : List World.Step} {step : World.Step}
    (punctual : Punctual timings (steps ++ [step])) :
    Punctual timings steps ∧ (World.run timings {} steps).Exact step := by
  constructor
  · intro before found after parts
    refine punctual before found (after ++ [step]) ?_
    rw [parts, List.append_assoc, List.cons_append]
  · exact punctual steps step [] rfl

theorem counting_of_run (ticks : 0 < timings.tick) {steps : List World.Step}
    (punctual : Punctual timings steps) :
    Counting timings (World.run timings {} steps).coordinator (World.run timings {} steps) := by
  induction steps using List.reverseRecOn with
  | nil =>
    exact
      { clocked := clocked_initial
        apart := ⟨fun _ impossible => absurd impossible List.not_mem_nil,
          fun _ impossible => by cases impossible⟩
        timely := .nil
        resting := fun _ => rfl
        running := fun impossible => by cases impossible }
  | append_singleton steps step ih =>
    obtain ⟨earlier, exact⟩ := punctual_concat punctual
    have accounted := accounted_of_run timings steps
    rw [World.run_concat]
    exact (ih earlier).step ticks accounted.coherent accounted.sound (dated_of_run timings steps)
      exact

/-- What a step announces is announced properly. -/
theorem proper_of_run (ticks : 0 < timings.tick) {steps : List World.Step}
    (punctual : Punctual timings steps) :
    EachAfter (Proper timings) (World.exchanges timings {} steps) := by
  induction steps using List.reverseRecOn with
  | nil => exact .nil
  | append_singleton steps step ih =>
    obtain ⟨earlier, exact⟩ := punctual_concat punctual
    have counting := counting_of_run ticks earlier
    have numbered := generation_of_run timings steps
    rw [World.exchanges_concat]
    cases handled : (World.run timings {} steps).exchange? timings step with
    | none =>
      rw [Option.toList_none, List.append_nil]
      exact ih earlier
    | some entry =>
      refine (ih earlier).concat ?_
      unfold Proper
      rw [World.told_exchanges, ← numbered]
      generalize World.run timings {} steps = world at *
      cases step with
      | deliver pauses =>
        obtain rfl : pauses = [] := exact
        obtain ⟨command, head, rfl⟩ := Option.map_eq_some_iff.mp handled
        obtain ⟨rest, waiting⟩ := List.head?_eq_some_iff.mp head
        let effects := (world.coordinator.handle timings (.still world.now) command).2.2
        constructor
        · intro remaining tells
          have tells : .tick remaining ∈ published effects := tells
          exact (tick_of_handle tells).1
        rintro player summary ends of rfl
        have ends : .roundEnded player summary ∈ published effects := ends
        obtain ⟨rfl, running⟩ := roundEnded_of_expired ends
        obtain ⟨start, on, stage⟩ := counting.running running
        obtain ⟨deadline, earlier, log⟩ := expired_told waiting stage
        exact ⟨rfl, start, earlier, on, deadline, log⟩
      | _ => cases handled

/-- **The countdown of a round.** On an exact clock, whatever is asked, however the fetches go and
in whichever order things happen at one instant:

* the time left is announced at every look for as long as the round is on, and rightly; a round that
  ends does so by its last look, and has announced every look before;
* only the countdown of the round that is on makes the time left known; if it ends the round, that
  is at the last look, right after the news that no time is left;
* a round is running up to its last look at most, in a settled state only before that, and there the
  looks announced are those whose time has come. -/
theorem countdown_of_run (timings : Timings) (steps : List World.Step) (ticks : 0 < timings.tick)
    (punctual : Punctual timings steps) :
    let world := World.run timings {} steps
    EachAfter (Timely timings) world.log ∧
      EachAfter (Proper timings) (World.exchanges timings {} steps) ∧
      (world.coordinator.phase = .running → ∃ start, opened? world.log = some start ∧
        world.now ≤ timings.look start timings.lastLook ∧
        (world.Settled → world.now < timings.look start timings.lastLook ∧
          ∀ number, number < looks world.log ↔ timings.look start number ≤ world.now)) := by
  intro world
  have counting : Counting timings world.coordinator world := counting_of_run ticks punctual
  refine ⟨counting.timely, proper_of_run ticks punctual, fun running => ?_⟩
  obtain ⟨start, on, stage⟩ := counting.running running
  refine ⟨start, on, stage.now_le, fun ⟨empty, ahead⟩ => ?_⟩
  -- With nothing left to do at this instant, the countdown waits for its next look.
  cases stage with
  | waiting held ticking quiet past _ within =>
    have among := List.mem_filter.mp (ticking.symm ▸ List.mem_singleton_self _)
    have early := ahead _ among.1 _ rfl
    refine ⟨Nat.lt_of_lt_of_le early (timings.look_le_look start within), fun number => ?_⟩
    constructor
    · exact past number
    · exact fun come =>
        (timings.look_lt_look start ticks).mp (Nat.lt_of_le_of_lt come early)
  | found held ticking mailbox =>
    rw [empty] at mailbox
    exact absurd mailbox.symm (List.append_ne_nil_of_right_ne_nil _ (List.cons_ne_nil _ _))
  | spent done mailbox =>
    rw [empty] at mailbox
    exact absurd mailbox.symm (List.append_ne_nil_of_right_ne_nil _ (List.cons_ne_nil _ _))
  | told done mailbox =>
    rw [empty] at mailbox
    cases mailbox

/-- Rounds of three units, with a look at the clock every two. -/
def uneven : Timings := { Timings.standard with round := 3, tick := 2 }

/-- A round in which nobody does anything. -/
def unplayed : List World.Step :=
  [.ask (.start (.fresh "ann")), .deliver [], .fire 0 none, .deliver [], .wait 2, .fire 0 none,
    .deliver [], .wait 2, .fire 0 none, .deliver [], .deliver []]

/-- After the second look the round is still on, and it ends at the third, after four units. -/
theorem countdown_of_run_unplayed :
    let middle := World.run uneven {} (unplayed.take 7)
    let handled := World.exchanges uneven {} unplayed
    (∃ start, opened? middle.log = some start ∧
        middle.now < uneven.look start uneven.lastLook) ∧
      ∃ start earlier, opened? (World.told (handled.take 4)) = some start ∧
        4 = uneven.look start uneven.lastLook ∧
        World.told (handled.take 4) = earlier ++ [(4, .tick 0)] := by
  intro middle handled
  constructor
  · obtain ⟨start, on, _, settled⟩ :=
      (countdown_of_run uneven (unplayed.take 7) (by decide) (by decide)).2.2 rfl
    exact ⟨start, on, (settled (by decide)).1⟩
  · have proper := (countdown_of_run uneven unplayed (by decide) (by decide)).2.1
    obtain ⟨_, ends⟩ := proper (handled.take 4) _ [] rfl
    obtain ⟨_, found⟩ := ends (.fresh "ann") _ (List.mem_singleton_self _) 1 rfl
    exact found

end TimedQuiz.Coordinator
