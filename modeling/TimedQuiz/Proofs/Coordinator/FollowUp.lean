/-
**Of all follow-ups, only that of the latest answer asks for a puzzle.**

Every graded answer sets a follow-up. A later answer gives it up, but it may have come due already
and wait to be handled; so it also carries the number of its answer and that of its round, by which
the coordinator tells whether it is still wanted.

* `handle_follows`: only a graded answer sets a follow-up, and it sets one.
* `Debounced`: every follow-up belongs to an answer in the log, and none is made twice.
* `followUps_of_run`: so the follow-up of an answer is handled at most once, and it asks for a
  puzzle exactly when no other answer and no other round has come in between.
-/

import TimedQuiz.Proofs.Coordinator.Countdown.Stage
import TimedQuiz.Proofs.Coordinator.Trail

namespace TimedQuiz.Coordinator

open Timeline (answered started Graded)

variable {timings : Timings} {watch : Watch} {c next : Coordinator} {effects : List Effect}

/-! ### What a command does about follow-ups -/

/-- The effect sets a follow-up. -/
def Effect.setsFollowUp : Effect → Bool
  | remind _ _ (.followUpDue _ _) => true
  | _ => false

/-- No answer is graded and no follow-up is set. If the round goes on, it was on before, and nothing
is given up. -/
structure Leaves (c : Coordinator) (effects : List Effect) (next : Coordinator) : Prop where
  sequence : next.followUpSequence = c.followUpSequence
  ungraded : ∀ event ∈ published effects, event.isAnswer = false
  sets : ∀ effect ∈ effects, effect.setsFollowUp = false
  going : next.phase = .running → next.generation = c.generation →
    c.phase = .running ∧ ∀ ticket, .cancel ticket ∉ effects

namespace Leaves

/-- Nothing at all is done. -/
theorem nothing (sequence : next.followUpSequence = c.followUpSequence)
    (phase : next.phase = c.phase) : Leaves c [] next where
  sequence := sequence
  ungraded _ impossible := by cases impossible
  sets _ impossible := by cases impossible
  going running _ := ⟨phase.symm.trans running, fun _ impossible => by cases impossible⟩

/-- One thing is done that has nothing to do with follow-ups. -/
theorem single {effect : Effect} (sequence : next.followUpSequence = c.followUpSequence)
    (phase : next.phase = c.phase) (ungraded : ∀ event ∈ effect.event?, event.isAnswer = false)
    (sets : effect.setsFollowUp = false) (cancels : ∀ ticket, effect ≠ .cancel ticket) :
    Leaves c [effect] next where
  sequence := sequence
  ungraded event told := by
    rw [published_cons, published_nil, List.append_nil, Option.mem_toList] at told
    exact ungraded event told
  sets other member := by rw [List.mem_singleton.mp member]; exact sets
  going running _ := ⟨phase.symm.trans running, fun ticket member =>
    cancels ticket (List.mem_singleton.mp member).symm⟩

end Leaves

theorem setsFollowUp_cancelTimers (c : Coordinator) :
    ∀ effect ∈ c.cancelTimers.2, effect.setsFollowUp = false := by
  intro effect member
  obtain ⟨ticket, -, rfl⟩ := List.mem_map.mp member
  rfl

theorem finish_leaves (c : Coordinator) : Leaves c c.finish.2.2 c.finish.2.1 := by
  unfold finish
  split
  · rename_i fresh running present
    refine ⟨rfl, ?_, ?_, fun again => ?_⟩
    · intro event told
      rw [published_append, published_cancelTimers, List.nil_append] at told
      rw [List.mem_singleton.mp told]
      rfl
    · intro effect member
      rcases List.mem_append.mp member with cancel | last
      · exact setsFollowUp_cancelTimers _ effect cancel
      · rw [List.mem_singleton.mp last]
        rfl
    · simp only [cancelTimers, running, Phase.advance, Phase.apply] at again
      cases again
  · exact .nothing rfl rfl

theorem requestNext_leaves (now : Span) (c : Coordinator) :
    Leaves c (c.requestNext now).2.2 (c.requestNext now).2.1 := by
  unfold requestNext
  split
  · exact .nothing rfl rfl
  · split
    · exact .nothing rfl rfl
    · split
      · exact .single rfl rfl (fun _ impossible => by cases impossible) rfl
          fun _ impossible => by cases impossible
      · exact finish_leaves c

theorem generation_requestNext (now : Span) (c : Coordinator) :
    (c.requestNext now).2.1.generation = c.generation := by
  unfold requestNext
  split
  · rfl
  · split
    · rfl
    · split
      · rfl
      · unfold finish
        dsimp only
        split <;> rfl

theorem start_leaves (timings : Timings) (watch : Watch) (c : Coordinator) (player : Player) :
    Leaves c (c.start timings watch player).2.2 (c.start timings watch player).2.1 := by
  unfold start
  split
  · exact .nothing rfl rfl
  · rename_i phase applied
    dsimp only
    -- The state in which the first puzzle of the round is asked for.
    set opened : Coordinator :=
      { ({ c with phase } : Coordinator).cancelTimers.1 with
        generation := c.generation + 1
        round := some (Round.openedAt player timings.round (watch.reading 0))
        hasEnded := false
        loading := false
        countdown := some c.nextTicket
        nextTicket := c.nextTicket + 1 }
    have asked : Leaves opened _ _ := requestNext_leaves (watch.reading 1) opened
    refine ⟨asked.sequence, ?_, ?_, fun _ same => ?_⟩
    · intro event told
      rw [published_append, published_append, published_cancelTimers, List.nil_append] at told
      rcases List.mem_append.mp told with first | later
      · rw [List.mem_singleton.mp first]
        rfl
      · exact asked.ungraded event later
    · intro effect member
      rcases List.mem_append.mp member with before | later
      · rcases List.mem_append.mp before with cancel | first
        · exact setsFollowUp_cancelTimers _ effect cancel
        · rcases List.mem_cons.mp first with rfl | second
          · rfl
          · rw [List.mem_singleton.mp second]
            rfl
      · exact asked.sets effect later
    · exact absurd ((generation_requestNext (watch.reading 1) opened).symm.trans same)
        (Nat.succ_ne_self _)

theorem fetched_leaves (timings : Timings) (now : Span) (c : Coordinator) (of : Nat)
    (outcome : Option Puzzle) :
    Leaves c (c.fetched timings now of outcome).2 (c.fetched timings now of outcome).1 := by
  unfold fetched
  split
  · exact .nothing rfl rfl
  · split
    · cases outcome with
      | some puzzle =>
        exact .single rfl rfl (fun event told => by cases told; rfl) rfl
          fun _ impossible => by cases impossible
      | none =>
        exact .single rfl rfl (fun _ impossible => by cases impossible) rfl
          fun _ impossible => by cases impossible
    · exact .nothing rfl rfl

/-- An answer is graded in the round that is on, and its follow-up is set. -/
structure Grades (timings : Timings) (c : Coordinator) (effects : List Effect)
    (next : Coordinator) : Prop where
  running : c.phase = .running
  same : next.phase = c.phase ∧ next.generation = c.generation
  sequence : next.followUpSequence = c.followUpSequence + 1
  made : ∃ (answer score : Event) (left : List Nat) (ticket : Nat),
    answer.isAnswer = true ∧ score.isAnswer = false ∧
    effects = [.publish answer, .publish score] ++ left.map .cancel ++
      [.remind ticket timings.followUpDelay (.followUpDue c.generation (c.followUpSequence + 1))]

theorem submit_follows (timings : Timings) (before during : Span) (c : Coordinator) (value : Int) :
    Leaves c (c.submit timings before during value).2.2
        (c.submit timings before during value).2.1 ∨
      Grades timings c (c.submit timings before during value).2.2
        (c.submit timings before during value).2.1 := by
  unfold submit
  split
  · rename_i round guarded present
    rw [Bool.and_eq_true, decide_eq_true_eq] at guarded
    split
    · exact .inl (.nothing rfl rfl)
    · refine .inr ⟨guarded.1, ⟨rfl, rfl⟩, rfl, ?_⟩
      exact ⟨_, _, c.followUp.toList, _, rfl, rfl, rfl⟩
  · exact .inl (finish_leaves c)

/-- **Only a graded answer sets a follow-up, and it sets one.** -/
theorem handle_follows (timings : Timings) (watch : Watch) (c : Coordinator) (command : Command) :
    Leaves c (c.handle timings watch command).2.2 (c.handle timings watch command).2.1 ∨
      Grades timings c (c.handle timings watch command).2.2
        (c.handle timings watch command).2.1 := by
  cases command with
  | start player => exact .inl (start_leaves timings watch c player)
  | submit value => exact submit_follows timings _ _ c value
  | next => exact .inl (requestNext_leaves _ c)
  | finish => exact .inl (finish_leaves c)
  | look => exact .inl (.nothing rfl rfl)
  | fetched of outcome => exact .inl (fetched_leaves timings _ c of outcome)
  | retryDue of =>
    simp only [handle]
    split
    · obtain ⟨sequence, ungraded, sets, going⟩ :=
        requestNext_leaves (watch.reading 0) { c with retry := none, loading := false }
      exact .inl ⟨sequence, ungraded, sets, going⟩
    · exact .inl (.nothing rfl rfl)
  | followUpDue of sequence =>
    simp only [handle]
    split
    · obtain ⟨sequence, ungraded, sets, going⟩ :=
        requestNext_leaves (watch.reading 0) { c with followUp := none }
      exact .inl ⟨sequence, ungraded, sets, going⟩
    · exact .inl (.nothing rfl rfl)
  | tick of remaining =>
    simp only [handle]
    split
    · exact .inl (.single rfl rfl (fun event told => by cases told; rfl) rfl
        fun _ impossible => by cases impossible)
    · exact .inl (.nothing rfl rfl)
  | expired of =>
    simp only [handle]
    split
    · exact .inl (finish_leaves c)
    · exact .inl (.nothing rfl rfl)

/-! ### Follow-ups under way -/

/-- The work is the wait of the follow-up of an answer. -/
def Task.isFollowUpOf (of number : Nat) (task : Task) : Bool :=
  match task.job with
  | .reminder _ command => command == .followUpDue of number
  | _ => false

namespace World

variable {of number : Nat}

/-- The follow-ups of an answer that are set. -/
def waits (world : World) (of number : Nat) : List Task :=
  world.tasks.filter (Task.isFollowUpOf of number)

/-- How many follow-ups of an answer are set or wait to be handled. -/
def followUps (world : World) (of number : Nat) : Nat :=
  world.outstanding (Task.isFollowUpOf of number) (· == .followUpDue of number)

theorem followUps_eq (world : World) (of number : Nat) :
    world.followUps of number =
      (world.waits of number).length + world.mailbox.count (.followUpDue of number) := by
  rw [waits, ← List.countP_eq_length_filter]
  rfl

theorem mem_waits {world : World} {task : Task} :
    task ∈ world.waits of number ↔
      task ∈ world.tasks ∧ ∃ due, task.job = .reminder due (.followUpDue of number) := by
  rw [waits, List.mem_filter]
  refine and_congr_right fun _ => ?_
  obtain ⟨ticket, since, job⟩ := task
  cases job <;> simp [Task.isFollowUpOf]

theorem waits_spawn (world : World) (ticket : Nat) {job : Job}
    (other : (Task.mk ticket world.now job).isFollowUpOf of number = false) :
    (world.spawn ticket job).waits of number = world.waits of number := by
  rw [waits, spawn, List.filter_append, List.filter_singleton, other]
  exact List.append_nil _

/-- What sets no follow-up takes away some at most, and that only by cancelling. -/
theorem waits_perform (world : World) {effect : Effect} (sets : effect.setsFollowUp = false) :
    ((world.perform effect).waits of number).Sublist (world.waits of number) ∧
      ((∀ ticket, effect ≠ .cancel ticket) →
        (world.perform effect).waits of number = world.waits of number) := by
  have kept (same : (world.perform effect).waits of number = world.waits of number) :
      ((world.perform effect).waits of number).Sublist (world.waits of number) ∧
        ((∀ ticket, effect ≠ .cancel ticket) →
          (world.perform effect).waits of number = world.waits of number) :=
    ⟨same ▸ List.Sublist.refl _, fun _ => same⟩
  cases effect with
  | publish event => exact kept rfl
  | fetch ticket generation => exact kept (waits_spawn _ ticket rfl)
  | countDown ticket generation clock => exact kept (waits_spawn _ ticket rfl)
  | remind ticket delay command =>
    refine kept (waits_spawn _ ticket (beq_eq_false_iff_ne.mpr ?_))
    rintro rfl
    cases sets
  | cancel ticket => exact ⟨List.filter_sublist.filter _, fun other => absurd rfl (other ticket)⟩

theorem waits_foldl_perform (effects : List Effect) (world : World)
    (sets : ∀ effect ∈ effects, effect.setsFollowUp = false) :
    ((effects.foldl perform world).waits of number).Sublist (world.waits of number) ∧
      ((∀ ticket, .cancel ticket ∉ effects) →
        (effects.foldl perform world).waits of number = world.waits of number) := by
  induction effects generalizing world with
  | nil => exact ⟨List.Sublist.refl _, fun _ => rfl⟩
  | cons effect rest ih =>
    obtain ⟨fewer, same⟩ := world.waits_perform (sets effect List.mem_cons_self)
    obtain ⟨fewerLast, sameLast⟩ := ih (world.perform effect) fun later member =>
      sets later (List.mem_cons_of_mem _ member)
    refine ⟨fewerLast.trans fewer, fun uncancelled => ?_⟩
    rw [List.foldl_cons, sameLast fun ticket member =>
      uncancelled ticket (List.mem_cons_of_mem _ member)]
    exact same fun ticket cancels => uncancelled ticket (cancels ▸ List.mem_cons_self)

end World

namespace Grades

/-- The answer is logged, and then the score. -/
theorem log_foldl_perform (grades : Grades timings c effects next) (world : World) :
    ∃ answer score : Event, answer.isAnswer = true ∧ score.isAnswer = false ∧
      (effects.foldl World.perform world).log =
        world.log ++ [(world.now, answer)] ++ [(world.now, score)] := by
  obtain ⟨answer, score, left, ticket, isAnswer, noAnswer, rfl⟩ := grades.made
  refine ⟨answer, score, isAnswer, noAnswer, ?_⟩
  rw [World.log_foldl_perform, published_append, published_append, published_cancel]
  exact (List.append_assoc world.log [(world.now, answer)] [(world.now, score)]).symm

/-- One follow-up is set, and others are taken away at most. -/
theorem waits_foldl_perform (grades : Grades timings c effects next) (world : World) :
    ∃ task : Task,
      task.job = .reminder (world.now + timings.followUpDelay)
        (.followUpDue c.generation (c.followUpSequence + 1)) ∧
      ∀ of number, ∃ old : List Task, old.Sublist (world.waits of number) ∧
        (effects.foldl World.perform world).waits of number =
          old ++ [task].filter (Task.isFollowUpOf of number) := by
  obtain ⟨answer, score, left, ticket, -, -, rfl⟩ := grades.made
  let quiet : List Effect := [.publish answer, .publish score] ++ left.map .cancel
  have sets : ∀ effect ∈ quiet, effect.setsFollowUp = false := by
    intro effect member
    rcases List.mem_append.mp member with told | cancel
    · rcases List.mem_cons.mp told with rfl | last
      · rfl
      · rw [List.mem_singleton.mp last]
        rfl
    · obtain ⟨ticket, -, rfl⟩ := List.mem_map.mp cancel
      rfl
  let middle := quiet.foldl World.perform world
  have still : middle.now = world.now := (World.foldl_perform_frame quiet world).2.2
  refine ⟨⟨ticket, middle.now, .reminder (middle.now + timings.followUpDelay)
    (.followUpDue c.generation (c.followUpSequence + 1))⟩, by rw [still], fun of number => ?_⟩
  refine ⟨middle.waits of number, (World.waits_foldl_perform quiet world sets).1, ?_⟩
  rw [List.foldl_append]
  exact List.filter_append ..

end Grades

/-- Follow-ups send follow-ups. -/
theorem sends_followUps (of number : Nat) :
    Sends (Task.isFollowUpOf of number) (· == .followUpDue of number) where
  fetch _ _ _ _ _ := rfl
  reminder _ _ _ _ := rfl
  countDown _ _ _ _ _ := rfl
  tick _ _ := rfl
  expired _ := rfl

/-! ### Every follow-up belongs to an answer -/

/-- How many follow-ups of an answer there have been, given some handled commands; those that have
been given up do not count. -/
def World.tally (world : World) (handled : List Command) (of number : Nat) : Nat :=
  world.followUps of number + handled.count (.followUpDue of number)

theorem World.length_waits_le_tally (world : World) (handled : List Command) (of number : Nat) :
    (world.waits of number).length ≤ world.tally handled of number := by
  rw [tally, followUps_eq, Nat.add_assoc]
  exact Nat.le_add_right _ _

/-- A command that has been handled counts as before: only what was set makes a difference. -/
theorem World.tally_handled {world after : World} (handled : List Command) {rest : List Command}
    {command : Command} (waiting : world.mailbox = command :: rest)
    (mailbox : after.mailbox = rest) (of number : Nat) :
    after.tally (handled ++ [command]) of number + (world.waits of number).length =
      world.tally handled of number + (after.waits of number).length := by
  rw [tally, tally, followUps_eq, followUps_eq, waiting, mailbox, List.count_append,
    List.count_cons, List.count_cons, List.count_nil]
  omega

/-- A follow-up that is set while a command is handled counts for its own answer, and for no
other. -/
theorem World.tally_grown {world after : World} (handled : List Command) {rest : List Command}
    {command : Command} (waiting : world.mailbox = command :: rest)
    (mailbox : after.mailbox = rest) {of number : Nat} {task : Task} {old : List Task}
    (fewer : old.Sublist (world.waits of number))
    (parts : after.waits of number = old ++ [task].filter (Task.isFollowUpOf of number)) :
    (task.isFollowUpOf of number).toNat ≤ after.tally (handled ++ [command]) of number ∧
      after.tally (handled ++ [command]) of number ≤
        world.tally handled of number + (task.isFollowUpOf of number).toNat := by
  have counted := tally_handled handled waiting mailbox of number
  have among := after.length_waits_le_tally (handled ++ [command]) of number
  have given : old.length ≤ (world.waits of number).length := fewer.length_le
  have own : ([task].filter (Task.isFollowUpOf of number)).length =
      (task.isFollowUpOf of number).toNat := by
    rw [List.filter_singleton]
    cases task.isFollowUpOf of number <;> rfl
  rw [parts, List.length_append, own] at counted among
  omega

/-- Follow-ups and graded answers agree, after some commands have been handled: every follow-up
belongs to an answer and comes no earlier than it should, and the latest answer of the running round
has exactly one. -/
structure Debounced (timings : Timings) (patient : Prop) (world : World) (handled : List Command) :
    Prop where
  sequence : world.coordinator.followUpSequence = answered world.log
  set : ∀ {task of number}, task ∈ world.waits of number → ∃ time,
    Graded world.log number of time ∧ ∀ due ∈ task.job.due?, time + timings.followUpDelay ≤ due
  queued : ∀ {of number}, .followUpDue of number ∈ world.mailbox → ∃ time,
    Graded world.log number of time ∧ (patient → time + timings.followUpDelay ≤ world.now)
  done : ∀ {of number}, .followUpDue of number ∈ handled → ∃ time, Graded world.log number of time
  once : ∀ of number, world.tally handled of number ≤ 1
  latest : ∀ {time}, world.coordinator.phase = .running →
    Graded world.log (answered world.log) (started world.log) time →
    world.tally handled (started world.log) (answered world.log) = 1

namespace Debounced

variable {patient : Prop} {world : World} {handled : List Command}

theorem initial : Debounced timings patient {} [] where
  sequence := rfl
  set member := by cases member
  queued member := by cases member
  done member := by cases member
  once _ _ := Nat.zero_le _
  latest running := by cases running

/-- There is no follow-up of an answer that has not been given. -/
theorem tally_future (debounced : Debounced timings patient world handled) (of : Nat)
    {number : Nat} (future : answered world.log < number) : world.tally handled of number = 0 := by
  have absurdly {time : Span} (graded : Graded world.log number of time) : False :=
    Nat.not_le_of_lt future graded.le_answered
  have none : world.waits of number = [] := List.eq_nil_iff_forall_not_mem.mpr fun task member =>
    have ⟨_, graded, _⟩ := debounced.set member
    absurdly graded
  have quiet : world.mailbox.count (.followUpDue of number) = 0 :=
    List.count_eq_zero.mpr fun member =>
      have ⟨_, graded, _⟩ := debounced.queued member
      absurdly graded
  have unheard : handled.count (.followUpDue of number) = 0 :=
    List.count_eq_zero.mpr fun member =>
      have ⟨_, graded⟩ := debounced.done member
      absurdly graded
  rw [World.tally, World.followUps_eq, none, quiet, unheard]
  rfl

section Handled

variable {command : Command} {rest : List Command} {stop : Span} {after : World}

/-- After a command has been handled, what still waits belongs to an answer, and so does what has
been handled. -/
theorem carried (debounced : Debounced timings patient world handled)
    (waiting : world.mailbox = command :: rest) (later : world.now ≤ stop)
    (frame : after.mailbox = rest ∧ after.coordinator = next ∧ after.now = stop)
    (grown : ∀ {of number : Nat} {time : Span}, Graded world.log number of time →
      Graded after.log number of time) (of number : Nat) :
    (.followUpDue of number ∈ after.mailbox → ∃ time, Graded after.log number of time ∧
      (patient → time + timings.followUpDelay ≤ after.now)) ∧
    (.followUpDue of number ∈ handled ++ [command] →
      ∃ time, Graded after.log number of time) := by
  refine ⟨fun member => ?_, fun member => ?_⟩
  · rw [frame.1] at member
    obtain ⟨time, graded, due⟩ := debounced.queued (waiting ▸ List.mem_cons_of_mem _ member)
    rw [frame.2.2]
    exact ⟨time, grown graded, fun patient => Nat.le_trans (due patient) later⟩
  · rcases List.mem_append.mp member with old | last
    · obtain ⟨time, graded⟩ := debounced.done old
      exact ⟨time, grown graded⟩
    · have queued : .followUpDue of number ∈ world.mailbox := by
        rw [waiting, List.mem_singleton.mp last]
        exact List.mem_cons_self
      obtain ⟨time, graded, -⟩ := debounced.queued queued
      exact ⟨time, grown graded⟩

/-- A command has been handled that has nothing to do with follow-ups, or takes one in. -/
theorem leaves (debounced : Debounced timings patient world handled)
    (waiting : world.mailbox = command :: rest) (later : world.now ≤ stop)
    (leaves : Leaves world.coordinator effects next)
    (performed : after = effects.foldl World.perform
      { world with mailbox := rest, coordinator := next, now := stop })
    (before : world.coordinator.generation = started world.log)
    (round : next.generation = started after.log) :
    Debounced timings patient after (handled ++ [command]) := by
  have frame : after.mailbox = rest ∧ after.coordinator = next ∧ after.now = stop :=
    performed ▸ World.foldl_perform_frame effects _
  have mailbox := frame.1
  have coordinator := frame.2.1
  obtain ⟨more, log, ungraded⟩ : ∃ more, after.log = world.log ++ more ∧ answered more = 0 := by
    refine ⟨_, performed ▸ World.log_foldl_perform effects _, ?_⟩
    rw [answered, List.countP_map]
    exact List.countP_eq_zero.mpr fun event told =>
      Bool.eq_false_iff.mp (leaves.ungraded event told)
  have same : answered after.log = answered world.log := by
    rw [answered, log, List.countP_append]
    exact congrArg (_ + ·) ungraded
  have waits (of number : Nat) :
      (after.waits of number).Sublist (world.waits of number) ∧
        ((∀ ticket, .cancel ticket ∉ effects) → after.waits of number = world.waits of number) :=
    performed ▸ World.waits_foldl_perform effects _ leaves.sets
  have grown {number of : Nat} {time : Span} (graded : Graded world.log number of time) :
      Graded after.log number of time := log ▸ graded.append more
  have carried := debounced.carried waiting later frame grown
  refine ⟨?_, ?_, (carried _ _).1, (carried _ _).2, ?_, ?_⟩
  · rw [coordinator, leaves.sequence, debounced.sequence, same]
  · intro task of number member
    obtain ⟨time, graded, due⟩ := debounced.set ((waits of number).1.mem member)
    exact ⟨time, grown graded, due⟩
  · intro of number
    have counted := World.tally_handled handled waiting mailbox of number
    have fewer := (waits of number).1.length_le
    have once := debounced.once of number
    omega
  · intro time running graded
    rw [coordinator] at running
    rw [same] at graded ⊢
    have old : Graded world.log (answered world.log) (started after.log) time :=
      Graded.of_append (log.symm ▸ graded : Graded (world.log ++ more) _ _ time) (Nat.le_refl _)
    -- The latest answer belongs to the running round, so no round has been started since.
    have current : started after.log = started world.log := by
      refine Nat.le_antisymm old.le_started ?_
      rw [log, started, started, List.countP_append]
      exact Nat.le_add_right _ _
    obtain ⟨playing, uncancelled⟩ := leaves.going running (round.trans (current.trans before.symm))
    rw [current] at old ⊢
    have counted := World.tally_handled handled waiting mailbox (started world.log)
      (answered world.log)
    rw [(waits _ _).2 uncancelled, debounced.latest playing old] at counted
    exact Nat.add_right_cancel counted

/-- An answer has been graded. -/
theorem grades (debounced : Debounced timings patient world handled)
    (waiting : world.mailbox = command :: rest) (later : world.now ≤ stop)
    (grades : Grades timings world.coordinator effects next)
    (performed : after = effects.foldl World.perform
      { world with mailbox := rest, coordinator := next, now := stop })
    (before : world.coordinator.generation = started world.log)
    (round : next.generation = started after.log) :
    Debounced timings patient after (handled ++ [command]) := by
  have frame : after.mailbox = rest ∧ after.coordinator = next ∧ after.now = stop :=
    performed ▸ World.foldl_perform_frame effects _
  have mailbox := frame.1
  have coordinator := frame.2.1
  obtain ⟨answer, score, isAnswer, noAnswer, log⟩ := grades.log_foldl_perform
    { world with mailbox := rest, coordinator := next, now := stop }
  obtain ⟨task, job, waits⟩ := grades.waits_foldl_perform
    { world with mailbox := rest, coordinator := next, now := stop }
  rw [← performed] at log
  rw [← performed] at waits
  have same : answered after.log = answered world.log + 1 := by
    rw [answered, log, List.countP_append, List.countP_append, List.countP_singleton,
      List.countP_singleton, if_pos isAnswer, noAnswer]
    rfl
  have current : started after.log = started world.log :=
    round.symm.trans (grades.same.2.trans before)
  have grown {number of : Nat} {time : Span} (graded : Graded world.log number of time) :
      Graded after.log number of time := log ▸ (graded.append _).append _
  rw [before, debounced.sequence] at job
  have fresh : Graded after.log (answered world.log + 1) (started world.log) stop :=
    log ▸ (Graded.concat world.log stop isAnswer).append _
  have own (of number : Nat) : task.isFollowUpOf of number =
      decide (of = started world.log ∧ number = answered world.log + 1) := by
    rw [Task.isFollowUpOf, job, Bool.eq_iff_iff, beq_iff_eq, decide_eq_true_eq,
      Command.followUpDue.injEq]
    exact and_congr eq_comm eq_comm
  have first : after.tally (handled ++ [command]) (started world.log) (answered world.log + 1) =
      1 := by
    obtain ⟨old, fewer, parts⟩ := waits (started world.log) (answered world.log + 1)
    have bounds := World.tally_grown handled waiting mailbox fewer parts
    rw [own, decide_eq_true ⟨rfl, rfl⟩, debounced.tally_future _ (Nat.lt_add_one _)] at bounds
    exact Nat.le_antisymm bounds.2 bounds.1
  have carried := debounced.carried waiting later frame grown
  refine ⟨?_, ?_, (carried _ _).1, (carried _ _).2, ?_, ?_⟩
  · rw [coordinator, grades.sequence, debounced.sequence, same]
  · intro other of number member
    obtain ⟨old, fewer, parts⟩ := waits of number
    rw [parts] at member
    rcases List.mem_append.mp member with before | last
    · obtain ⟨time, graded, due⟩ := debounced.set (fewer.mem before)
      exact ⟨time, grown graded, due⟩
    · obtain ⟨only, isFollowUp⟩ := List.mem_filter.mp last
      rw [List.mem_singleton.mp only] at isFollowUp ⊢
      rw [own, decide_eq_true_eq] at isFollowUp
      obtain ⟨rfl, rfl⟩ := isFollowUp
      refine ⟨stop, fresh, fun due set => ?_⟩
      rw [job] at set
      exact Nat.le_of_eq (Option.some.inj set)
  · intro of number
    obtain ⟨old, fewer, parts⟩ := waits of number
    have bounds := World.tally_grown handled waiting mailbox fewer parts
    by_cases latest : of = started world.log ∧ number = answered world.log + 1
    · rw [latest.1, latest.2, first]
    · rw [own, decide_eq_false latest] at bounds
      exact Nat.le_trans bounds.2 (debounced.once of number)
  · intro time _ _
    rw [same, current]
    exact first

end Handled

theorem mono {fewer : Prop} (debounced : Debounced timings patient world handled)
    (among : fewer → patient) : Debounced timings fewer world handled :=
  { debounced with
    queued := fun member =>
      have ⟨time, graded, due⟩ := debounced.queued member
      ⟨time, graded, fun few => due (among few)⟩ }

/-- Other commands may arrive. -/
theorem post (debounced : Debounced timings patient world handled) {command : Command}
    (other : ∀ of number, command ≠ .followUpDue of number) :
    Debounced timings patient (world.post command) handled := by
  have same (of number : Nat) :
      (world.post command).tally handled of number = world.tally handled of number := by
    rw [World.tally, World.followUps, World.outstanding_post,
      beq_eq_false_iff_ne.mpr (other of number)]
    rfl
  refine ⟨debounced.sequence, debounced.set, ?_, debounced.done, ?_, ?_⟩
  · intro of number member
    rcases List.mem_append.mp member with old | new
    · exact debounced.queued old
    · exact absurd (List.mem_singleton.mp new).symm (other of number)
  · exact fun of number => same of number ▸ debounced.once of number
  · exact fun running graded => (same _ _).trans (debounced.latest running graded)

theorem wait (debounced : Debounced timings patient world handled) (span : Span) :
    Debounced timings patient { world with now := world.now + span } handled :=
  { debounced with
    queued := fun member =>
      have ⟨time, graded, due⟩ := debounced.queued member
      ⟨time, graded, fun patient => Nat.le_trans (due patient) (Nat.le_add_right _ _)⟩ }

end Debounced

namespace World

/-- Work that comes due sets no follow-up. -/
theorem waits_fire (world : World) (task : Task) (outcome : Option Puzzle) {of number : Nat}
    {waiting : Task} (member : waiting ∈ (world.fire timings task outcome).waits of number) :
    waiting ∈ world.waits of number := by
  obtain ⟨among, due, job⟩ := mem_waits.mp member
  refine mem_waits.mpr ⟨?_, due, job⟩
  unfold fire at among
  split at among
  · exact (List.mem_filter.mp among).1
  · exact (List.mem_filter.mp among).1
  · dsimp only at among
    split at among
    · exact (List.mem_filter.mp among).1
    · obtain ⟨earlier, before, same⟩ := List.mem_map.mp among
      split at same
      · cases same
        cases job
      · exact same ▸ before

/-- A follow-up that waits to be handled waited before, or it comes due. -/
theorem queued_fire (world : World) (task : Task) (outcome : Option Puzzle) {of number : Nat}
    (member : .followUpDue of number ∈ (world.fire timings task outcome).mailbox) :
    .followUpDue of number ∈ world.mailbox ∨
      ∃ due, task.job = .reminder due (.followUpDue of number) := by
  have last {former : List Command} {news : Command}
      (waits : .followUpDue of number ∈ former ++ [news])
      (other : news ≠ .followUpDue of number) : .followUpDue of number ∈ former :=
    (List.mem_append.mp waits).resolve_right fun new =>
      other (List.mem_singleton.mp new).symm
  unfold fire at member
  split at member
  · rename_i due command job
    rcases List.mem_append.mp member with old | new
    · exact .inl old
    · exact .inr ⟨due, List.mem_singleton.mp new ▸ job⟩
  · exact .inl (last member fun impossible => by cases impossible)
  · dsimp only at member
    split at member
    · exact .inl (last (last member fun impossible => by cases impossible)
        fun impossible => by cases impossible)
    · exact .inl (last member fun impossible => by cases impossible)

end World

/-- Work comes due, and if it is a follow-up, then not before its time. -/
theorem Debounced.fire {patient : Prop} {world : World} {handled : List Command}
    (debounced : Debounced timings patient world handled) (sound : Sound world.coordinator world)
    {task : Task} (member : task ∈ world.tasks)
    (patience : patient → ∀ due ∈ task.job.due?, due ≤ world.now) (outcome : Option Puzzle) :
    Debounced timings patient (world.fire timings task outcome) handled := by
  obtain ⟨coordinator, now⟩ := World.fire_frame timings world task outcome
  have log := World.log_fire timings world task outcome
  have same (of number : Nat) : (world.fire timings task outcome).tally handled of number =
      world.tally handled of number :=
    congrArg (· + _) (sound.outstanding_fire (sends_followUps of number) timings member outcome)
  refine ⟨?_, ?_, ?_, ?_, ?_, ?_⟩
  · rw [coordinator, log]
    exact debounced.sequence
  · intro waiting of number set
    rw [log]
    exact debounced.set (world.waits_fire task outcome set)
  · intro of number waits
    rw [log, now]
    rcases world.queued_fire task outcome waits with old | ⟨due, job⟩
    · exact debounced.queued old
    · obtain ⟨time, graded, late⟩ := debounced.set (World.mem_waits.mpr ⟨member, due, job⟩)
      have own : due ∈ task.job.due? := by rw [job]; rfl
      exact ⟨time, graded, fun patient => Nat.le_trans (late due own) (patience patient due own)⟩
  · intro of number heard
    rw [log]
    exact debounced.done heard
  · exact fun of number => same of number ▸ debounced.once of number
  · intro time running graded
    rw [coordinator] at running
    rw [log] at graded ⊢
    rw [same]
    exact debounced.latest running graded

/-! ### Runs -/

/-- In no step of a run a timer goes off before its time. -/
def Patient (timings : Timings) (steps : List World.Step) : Prop :=
  EachAfter (fun before step => (World.run timings {} before).Patient step) steps

instance (timings : Timings) (steps : List World.Step) : Decidable (Patient timings steps) :=
  inferInstanceAs (Decidable (EachAfter _ steps))

/-- The commands that a run has handled. -/
def handledIn (timings : Timings) (steps : List World.Step) : List Command :=
  (World.exchanges timings {} steps).map fun exchange => exchange.2.command

theorem handledIn_concat (steps : List World.Step) (step : World.Step) :
    handledIn timings (steps ++ [step]) = handledIn timings steps ++
      (((World.run timings {} steps).exchange? timings step).toList.map fun exchange =>
        exchange.2.command) := by
  rw [handledIn, World.exchanges_concat, List.map_append]
  rfl

/-- **A step keeps follow-ups and graded answers in agreement.** -/
theorem Debounced.step {patient : Prop} {world : World} {handled : List Command}
    (debounced : Debounced timings patient world handled) (sound : Sound world.coordinator world)
    {step : World.Step} (patience : patient → world.Patient step)
    (before : world.coordinator.generation = started world.log)
    (round : (world.step timings step).coordinator.generation =
      started (world.step timings step).log) :
    Debounced timings patient (world.step timings step)
      (handled ++
        (world.exchange? timings step).toList.map fun exchange => exchange.2.command) := by
  have quiet (unheard : world.exchange? timings step = none)
      (kept : Debounced timings patient (world.step timings step) handled) :
      Debounced timings patient (world.step timings step) (handled ++
        (world.exchange? timings step).toList.map fun exchange => exchange.2.command) := by
    rwa [unheard, Option.toList_none, List.map_nil, List.append_nil]
  cases step with
  | ask request =>
    exact quiet rfl (debounced.post fun of number same => by cases request <;> cases same)
  | wait span => exact quiet rfl (debounced.wait span)
  | fire ticket outcome =>
    refine quiet rfl ?_
    rw [World.step]
    split
    · rename_i task found
      have member := List.mem_of_find?_eq_some found
      have own := List.find?_some found
      exact debounced.fire sound member
        (fun patient => patience patient task member (beq_iff_eq.mp own)) outcome
    · exact debounced
  | deliver pauses =>
    cases waiting : world.mailbox with
    | nil =>
      refine quiet (by rw [World.exchange?, waiting]; rfl) ?_
      rw [World.step, World.deliver, waiting]
      exact debounced
    | cons command rest =>
      simp only [World.step, World.deliver, World.exchange?, waiting] at round ⊢
      have later := Watch.start_le_stop { start := world.now, pauses }
      rw [World.handleSlowly, (World.foldl_perform_frame _ _).2.1] at round
      rcases handle_follows timings { start := world.now, pauses } world.coordinator command with
        leaves | grades
      · exact debounced.leaves waiting later leaves rfl before round
      · exact debounced.grades waiting later grades rfl before round

/-- **In every run, follow-ups and graded answers agree.** -/
theorem debounced_of_run (timings : Timings) (steps : List World.Step) :
    Debounced timings (Patient timings steps) (World.run timings {} steps)
      (handledIn timings steps) := by
  induction steps using List.reverseRecOn with
  | nil => exact .initial
  | append_singleton steps step ih =>
    have round := generation_of_run timings (steps ++ [step])
    rw [World.run_concat] at round
    rw [World.run_concat, handledIn_concat]
    exact (ih.mono EachAfter.init).step (accounted_of_run timings steps).sound EachAfter.last
      (generation_of_run timings steps) round

/-! ### What becomes of a follow-up -/

/-- **Follow-ups.** In every state that a run reaches, there is at most one follow-up of each
answer, set, waiting or handled, and there is one of the latest answer as long as its round is
running.

When a follow-up comes to be handled, its answer has been graded, and that long enough ago if no
timer goes off early. If that answer is the latest and no other round has been started, the next
puzzle is requested once. If another answer or another round has come in between, or the round is no
longer running, nothing is fetched, ended or announced. -/
theorem followUps_of_run (timings : Timings) (steps : List World.Step) :
    let world := World.run timings {} steps
    let c := world.coordinator
    let handled := handledIn timings steps
    let round := started world.log
    let latest := answered world.log
    world.followUps c.generation c.followUpSequence ≤ 1 ∧
      (∀ of number,
        world.followUps of number + handled.count (.followUpDue of number) ≤ 1) ∧
      (∀ time, c.phase = .running → Graded world.log latest round time →
        world.followUps round latest + handled.count (.followUpDue round latest) = 1) ∧
      ∀ of number rest pauses, world.mailbox = .followUpDue of number :: rest →
        let after := world.step timings (.deliver pauses)
        let heard : World :=
          { world with mailbox := rest, now := Watch.stop { start := world.now, pauses } }
        (∃ time, Graded world.log number of time ∧
          (Patient timings steps → time + timings.followUpDelay ≤ world.now)) ∧
        (of = round ∧ number = latest →
          let (_, next, effects) := { c with followUp := none }.requestNext world.now
          after = effects.foldl World.perform { heard with coordinator := next }) ∧
        (¬ (of = round ∧ number = latest) → after = heard) ∧
        (¬ (c.phase = .running ∧ of = round ∧ number = latest) →
          ∃ left, after = { heard with coordinator := { c with followUp := left } }) := by
  intro world c handled round latest
  have debounced : Debounced timings (Patient timings steps) world handled :=
    debounced_of_run timings steps
  have generation : c.generation = round := generation_of_run timings steps
  have sequence : c.followUpSequence = latest := debounced.sequence
  refine ⟨?_, debounced.once, fun time running graded => debounced.latest running graded, ?_⟩
  · have once := debounced.once c.generation c.followUpSequence
    rw [World.tally] at once
    exact Nat.le_trans (Nat.le_add_right _ _) once
  · intro of number rest pauses waiting after heard
    have handling : after = (World.handleSlowly timings pauses { world with mailbox := rest }
        (.followUpDue of number)).2 := by
      simp only [after, World.step, World.deliver, waiting]
    refine ⟨debounced.queued (waiting ▸ List.mem_cons_self), ?_, ?_, ?_⟩
    · intro wanted
      rw [← generation, ← sequence] at wanted
      rw [handling, World.handleSlowly, Coordinator.handle, if_pos wanted]
      rfl
    · intro stale
      rw [← generation, ← sequence] at stale
      rw [handling, World.handleSlowly, Coordinator.handle, if_neg stale]
      rfl
    · intro late
      by_cases wanted : of = c.generation ∧ number = c.followUpSequence
      · have resting : c.phase ≠ .running := fun running =>
          late ⟨running, generation ▸ sequence ▸ wanted⟩
        refine ⟨none, ?_⟩
        rw [handling, World.handleSlowly, Coordinator.handle, if_pos wanted, requestNext,
          if_pos resting]
        rfl
      · refine ⟨c.followUp, ?_⟩
        rw [handling, World.handleSlowly, Coordinator.handle, if_neg wanted]
        rfl

/-- A round is started and an answer is given. The follow-up comes due while another answer waits to
be handled, and so it is handled after that. -/
def overtaken : List World.Step :=
  [.ask (.start (.fresh "ann")), .deliver [], .fire 1 (some ⟨[1], 5⟩), .deliver [],
    .ask (.submit 5), .deliver [], .wait (Span.ofMillis 800), .ask (.submit 4), .fire 2 none,
    .deliver []]

/-- Then it does nothing, and the follow-up of the other answer is still set. -/
theorem followUps_of_run_overtaken :
    let world := World.run .standard {} overtaken
    world.mailbox = [.followUpDue 1 1] ∧
      world.step .standard (.deliver []) = { world with mailbox := [] } ∧
      world.followUps 1 2 = 1 := by
  obtain ⟨-, -, set, handling⟩ := followUps_of_run .standard overtaken
  obtain ⟨-, -, ignored, -⟩ := handling 1 1 [] [] (by decide)
  refine ⟨by decide, ignored (by decide), ?_⟩
  have graded : Graded (World.run .standard {} overtaken).log 2 1 (Span.ofMillis 800) :=
    ⟨(World.run .standard {} overtaken).log.take 4, .answerGraded 4 false ⟨"ann", 1, 1, 2⟩,
      (World.run .standard {} overtaken).log.drop 5, by decide, by decide, by decide, by decide⟩
  exact set _ (by decide) graded

end TimedQuiz.Coordinator
