/-
**A new round does not depend on what was before.**

When a round is started, much may be left over from earlier ones: fetches nobody waits for any more,
and commands that wait to be handled. All of it carries the number of its round, and nobody listens
to it. So a coordinator with a history and a fresh one that are given the same do the same from the
start on, up to a shift of the clock and of the numbers (`Shift.after`).

* `Shift.counterparts`: the steps for the fresh coordinator. Where the other handles a leftover, or
  work of an earlier round comes due, time goes by.
* `replay_of_run`: the answers, the events and their times, and every view of the coordinator are
  the same. Work of the round is due at the same offsets in both, so the fresh coordinator is not
  given anything out of time either.

The two worlds are kept together by `Echo`.
-/

import TimedQuiz.Proofs.Coordinator.Countdown.Stage
import TimedQuiz.Proofs.Coordinator.Shift
import TimedQuiz.Proofs.Coordinator.Trail

namespace TimedQuiz.Coordinator

variable {timings : Timings}

/-! ### Leftovers -/

/-- A command of an earlier round changes nothing and is not answered. -/
theorem handle_stale {watch : Watch} {c : Coordinator} {command : Command} {of : Nat}
    (belongs : command.round? = some of) (earlier : of < c.generation) :
    c.handle timings watch command = (.silent, c, []) := by
  have other : of ≠ c.generation := Nat.ne_of_lt earlier
  cases command with
  | fetched of puzzle =>
    cases belongs
    simp only [handle, fetched, if_pos other]
  | retryDue of =>
    cases belongs
    simp only [handle, if_neg other]
  | followUpDue of sequence =>
    cases belongs
    simp only [handle, other, false_and, if_false]
  | tick of remaining =>
    cases belongs
    simp only [handle, other, false_and, if_false]
  | expired of =>
    cases belongs
    simp only [handle, if_neg other]
  | _ => cases belongs

namespace Shift

/-- The shift from a fresh coordinator to one with a history. -/
def after (world : World) : Shift :=
  { time := world.now
    generation := world.coordinator.generation
    sequence := world.coordinator.followUpSequence
    ticket := world.coordinator.nextTicket
    call := world.calls.length }

variable (k : Shift)

/-- The command is left over from before the shift. -/
def isStale (command : Command) : Bool := command.round?.any fun of => decide (of ≤ k.generation)

@[simps]
def entry (entry : Span × Event) : Span × Event := (k.time + entry.1, entry.2)

/-- The answer and the events stay as they are. -/
def exchange (handled : Span × Exchange) : Span × Exchange :=
  (k.time + handled.1, { handled.2 with command := k.command handled.2.command })

/-- What a fresh coordinator is given in place of a step. -/
def counterpart (old : World) : World.Step → World.Step
  | .ask request => .ask request
  | .deliver pauses =>
    if old.mailbox.head?.any k.isStale then .wait (pauses.foldl (· + ·) 0) else .deliver pauses
  | .fire ticket outcome =>
    if ticket < k.ticket then .wait 0 else .fire (ticket - k.ticket) outcome
  | .wait span => .wait span

/-- What a fresh coordinator is given in place of some steps. -/
def counterparts (timings : Timings) (old : World) : List World.Step → List World.Step
  | [] => []
  | step :: rest => k.counterpart old step :: counterparts timings (old.step timings step) rest

/-- Shifted commands of rounds that have been opened are not stale. -/
theorem isStale_command {command : Command} (belongs : command.BelongsTo (0 < ·)) :
    k.isStale (k.command command) = false := by
  have later (of : Nat) (opened : 0 < of) : decide (k.generation + of ≤ k.generation) = false :=
    decide_eq_false (Nat.not_le_of_lt (Nat.lt_add_of_pos_right opened))
  cases command with
  | fetched of puzzle => exact later of (belongs of rfl)
  | retryDue of => exact later of (belongs of rfl)
  | followUpDue of sequence => exact later of (belongs of rfl)
  | tick of remaining => exact later of (belongs of rfl)
  | expired of => exact later of (belongs of rfl)
  | _ => rfl

/-- Requests stay as they are. -/
theorem command_of_isRequest {command : Command} (request : command.isRequest = true) :
    k.command command = command := by
  cases command <;> first | rfl | cases request

end Shift

/-- Two sequences of exchanges agree, up to the shift, in all that is not left over. A leftover is
not answered, and nothing is announced with it. -/
structure Matches (k : Shift) (handled again : List (Span × Exchange)) : Prop where
  same : handled.filter (fun exchange => !k.isStale exchange.2.command) = again.map k.exchange
  silent : ∀ exchange ∈ handled, k.isStale exchange.2.command = true →
    exchange.2.reply = .silent ∧ exchange.2.events = []

namespace Matches

variable {k : Shift} {first second again later : List (Span × Exchange)}

theorem nil : Matches k [] [] := ⟨rfl, fun _ impossible => by cases impossible⟩

theorem append (former : Matches k first again) (latter : Matches k second later) :
    Matches k (first ++ second) (again ++ later) where
  same := by rw [List.filter_append, former.same, latter.same, List.map_append]
  silent exchange member := by
    rcases List.mem_append.mp member with early | late
    · exact former.silent exchange early
    · exact latter.silent exchange late

end Matches

/-! ### Two worlds that go together -/

/-- The old world goes on as the fresh one does, except for its leftovers: work with tickets from
before, and commands of earlier rounds. -/
structure Echo (k : Shift) (kept : List (Span × Event)) (old fresh : World) : Prop where
  now : old.now = k.time + fresh.now
  coordinator : old.coordinator = k.coordinator fresh.coordinator
  tasks : ∃ stale : List Task, old.tasks = stale ++ fresh.tasks.map k.task ∧
    ∀ task ∈ stale, task.ticket < k.ticket ∧ task.job.BelongsTo (· ≤ k.generation)
  mailbox : old.mailbox.filter (fun command => !k.isStale command) = fresh.mailbox.map k.command
  log : old.log = kept ++ fresh.log.map k.entry
  calls : old.calls.length = k.call + fresh.calls.length

namespace Echo

variable {k : Shift} {kept : List (Span × Event)} {old fresh : World}

theorem spawn (echo : Echo k kept old fresh) (ticket : Nat) {job : Job} {shifted : Job}
    (same : shifted = k.job job) :
    Echo k kept (old.spawn (k.ticket + ticket) shifted) (fresh.spawn ticket job) := by
  obtain ⟨stale, tasks, left⟩ := echo.tasks
  refine { echo with tasks := ⟨stale, ?_, left⟩ }
  rw [World.spawn, World.spawn, tasks, List.map_append, List.append_assoc, same, echo.now]
  rfl

theorem drop (echo : Echo k kept old fresh) (ticket : Nat) :
    Echo k kept (old.drop (k.ticket + ticket)) (fresh.drop ticket) := by
  obtain ⟨stale, tasks, left⟩ := echo.tasks
  refine { echo with tasks := ⟨stale, ?_, left⟩ }
  have own : stale.filter (fun task => task.ticket != k.ticket + ticket) = stale := by
    refine List.filter_eq_self.mpr fun task member => bne_iff_ne.mpr fun same => ?_
    have early := (left task member).1
    rw [same] at early
    exact absurd early (Nat.not_lt_of_le (Nat.le_add_right _ _))
  rw [World.drop, World.drop, tasks, List.filter_append, own, List.filter_map]
  refine congrArg (stale ++ List.map k.task ·) (List.filter_congr fun task _ => ?_)
  rw [Function.comp_apply, Bool.eq_iff_iff, bne_iff_ne, bne_iff_ne, Shift.task_ticket]
  exact not_congr Nat.add_left_cancel_iff

/-- **What is done to the one world and, shifted, to the other keeps them together.** -/
theorem perform (echo : Echo k kept old fresh) (effect : Effect) :
    Echo k kept (old.perform (k.effect effect)) (fresh.perform effect) := by
  cases effect with
  | publish event =>
    refine { echo with log := ?_ }
    change old.log ++ _ = kept ++ (fresh.log ++ _).map k.entry
    rw [echo.log, echo.now, List.map_append, List.append_assoc]
    rfl
  | fetch ticket of =>
    have called : Echo k kept { old with calls := old.calls ++ [old.now] }
        { fresh with calls := fresh.calls ++ [fresh.now] } :=
      { echo with calls := by rw [List.length_append, List.length_append, echo.calls]; rfl }
    refine called.spawn ticket ?_
    rw [echo.calls]
    rfl
  | countDown ticket of clock =>
    refine echo.spawn ticket ?_
    rw [echo.now]
    rfl
  | remind ticket delay command =>
    refine echo.spawn ticket ?_
    rw [echo.now, Nat.add_assoc]
    rfl
  | cancel ticket => exact echo.drop ticket

theorem performs (echo : Echo k kept old fresh) (effects : List Effect) :
    Echo k kept ((effects.map k.effect).foldl World.perform old)
      (effects.foldl World.perform fresh) := by
  induction effects generalizing old fresh with
  | nil => exact echo
  | cons effect rest ih => exact ih (echo.perform effect)

/-! ### Work coming due -/

theorem post (echo : Echo k kept old fresh) (command : Command)
    (own : command.BelongsTo (0 < ·)) :
    Echo k kept (old.post (k.command command)) (fresh.post command) := by
  refine { echo with mailbox := ?_ }
  rw [World.post, World.post, List.filter_append, List.map_append, echo.mailbox,
    List.filter_singleton, k.isStale_command own]
  rfl

theorem postStale (echo : Echo k kept old fresh) (command : Command)
    (stale : k.isStale command = true) : Echo k kept (old.post command) fresh := by
  refine { echo with mailbox := ?_ }
  rw [World.post, List.filter_append, echo.mailbox, List.filter_singleton, stale]
  exact List.append_nil _

theorem dropStale (echo : Echo k kept old fresh) {ticket : Nat} (early : ticket < k.ticket) :
    Echo k kept (old.drop ticket) fresh := by
  obtain ⟨stale, tasks, left⟩ := echo.tasks
  have others : (fresh.tasks.map k.task).filter (fun task => task.ticket != ticket) =
      fresh.tasks.map k.task := by
    refine List.filter_eq_self.mpr fun task member => bne_iff_ne.mpr fun same => ?_
    obtain ⟨before, _, rfl⟩ := List.mem_map.mp member
    rw [← same] at early
    exact absurd early (Nat.not_lt_of_le (Nat.le_add_right _ _))
  refine
    { echo with
      tasks := ⟨stale.filter fun task => task.ticket != ticket, ?_,
        fun task member => left task (List.mem_filter.mp member).1⟩ }
  rw [World.drop, tasks, List.filter_append, others]

theorem replace (echo : Echo k kept old fresh) (ticket : Nat) {job shifted : Job}
    (same : shifted = k.job job) :
    Echo k kept (old.replace (k.ticket + ticket) shifted) (fresh.replace ticket job) := by
  obtain ⟨stale, tasks, left⟩ := echo.tasks
  refine { echo with tasks := ⟨stale, ?_, left⟩ }
  rw [World.replace, World.replace, tasks, List.map_append, List.map_map, List.map_map, same,
    echo.now]
  refine congrArg₂ (· ++ ·) ?_ (List.map_congr_left fun task _ => ?_)
  · refine (List.map_congr_left fun task member => if_neg fun shared => ?_).trans (List.map_id _)
    have early := (left task member).1
    rw [shared] at early
    exact absurd early (Nat.not_lt_of_le (Nat.le_add_right _ _))
  · simp only [Function.comp_apply, Shift.task_ticket, Nat.add_left_cancel_iff]
    split <;> rfl

theorem replaceStale (echo : Echo k kept old fresh) {ticket : Nat} (early : ticket < k.ticket)
    {job : Job} (belongs : job.BelongsTo (· ≤ k.generation)) :
    Echo k kept (old.replace ticket job) fresh := by
  obtain ⟨stale, tasks, left⟩ := echo.tasks
  let change (task : Task) : Task :=
    if task.ticket = ticket then { ticket, since := old.now, job } else task
  refine { echo with tasks := ⟨stale.map change, ?_, ?_⟩ }
  · have others : (fresh.tasks.map k.task).map change = fresh.tasks.map k.task := by
      refine (List.map_congr_left fun task member => if_neg fun shared => ?_).trans (List.map_id _)
      obtain ⟨before, _, rfl⟩ := List.mem_map.mp member
      rw [← shared] at early
      exact absurd early (Nat.not_lt_of_le (Nat.le_add_right _ _))
    rw [World.replace, tasks, List.map_append]
    exact congrArg (stale.map change ++ ·) others
  · intro task member
    obtain ⟨before, among, rfl⟩ := List.mem_map.mp member
    by_cases shared : before.ticket = ticket
    · simp only [change, if_pos shared]
      exact ⟨early, belongs⟩
    · simp only [change, if_neg shared]
      exact left before among

/-- The looks of a countdown are shifted with its clock. -/
theorem nextLook_shift (period due now : Span) :
    World.nextLook period (k.time + due) (k.time + now) =
      k.time + World.nextLook period due now := by
  have missed := Nat.mod_le (now - due) period
  have gap : k.time + now - (k.time + due) = now - due := Nat.add_sub_add_left ..
  simp only [World.nextLook, gap]
  unfold Span at *
  split <;> split <;> omega

/-- Work of the fresh world comes due in both. -/
theorem fire (echo : Echo k kept old fresh) (belongs : fresh.BelongsTo (0 < ·)) {task : Task}
    (member : task ∈ fresh.tasks) (outcome : Option Puzzle) :
    Echo k kept (old.fire timings (k.task task) outcome) (fresh.fire timings task outcome) := by
  obtain ⟨ticket, since, job⟩ := task
  have own : job.BelongsTo (0 < ·) := belongs.tasks _ member
  cases job with
  | fetch of call =>
    exact (echo.drop ticket).post (.fetched of outcome) fun _ same => Option.some.inj same ▸ own
  | reminder due command =>
    refine (echo.drop ticket).post command fun of same => ?_
    cases command with
    | retryDue _ => exact Option.some.inj same ▸ own
    | followUpDue _ _ => exact Option.some.inj same ▸ own
    | _ => exact own.elim
  | countDown of clock due =>
    have told := echo.post (.tick of (clock.remaining fresh.now)) fun _ same =>
      Option.some.inj same ▸ own
    have remaining : (k.clock clock).remaining old.now = clock.remaining fresh.now := by
      rw [echo.now, Shift.remaining_clock]
    simp only [World.fire, Shift.task, Shift.job, remaining]
    split
    · exact (told.drop ticket).post (.expired of) fun _ same => Option.some.inj same ▸ own
    · refine told.replace ticket ?_
      rw [echo.now, nextLook_shift]
      rfl

/-- Work of an earlier round comes due. -/
theorem fireStale (echo : Echo k kept old fresh) {task : Task} (early : task.ticket < k.ticket)
    (belongs : task.job.BelongsTo (· ≤ k.generation)) (outcome : Option Puzzle) :
    Echo k kept (old.fire timings task outcome) fresh := by
  obtain ⟨ticket, since, job⟩ := task
  cases job with
  | fetch of call =>
    exact (echo.dropStale early).postStale (.fetched of outcome) (decide_eq_true belongs)
  | reminder due command =>
    refine (echo.dropStale early).postStale command ?_
    cases command with
    | retryDue of => exact decide_eq_true belongs
    | followUpDue of sequence => exact decide_eq_true belongs
    | _ => exact belongs.elim
  | countDown of clock due =>
    have told := echo.postStale (.tick of (clock.remaining old.now)) (decide_eq_true belongs)
    simp only [World.fire]
    split
    · exact (told.dropStale early).postStale (.expired of) (decide_eq_true belongs)
    · exact told.replaceStale early belongs

/-! ### Commands -/

/-- A command of the fresh world is handled in both, with the same answer and the same events. -/
theorem handled (echo : Echo k kept old fresh) (timings : Timings) (pauses : List Span)
    (command : Command) :
    Echo k kept (old.handleSlowly timings pauses (k.command command)).2
        (fresh.handleSlowly timings pauses command).2 ∧
      (Watch.stop { start := old.now, pauses },
          old.coordinator.exchange timings ({ start := old.now, pauses }, k.command command)) =
        k.exchange (Watch.stop { start := fresh.now, pauses },
          fresh.coordinator.exchange timings ({ start := fresh.now, pauses }, command)) := by
  let watch : Watch := { start := fresh.now, pauses }
  have clock : ({ start := old.now, pauses } : Watch) = k.watch watch := by rw [echo.now]; rfl
  have same := k.handle_coordinator fresh.coordinator timings watch command
  rw [← echo.coordinator, ← clock] at same
  have stop : ({ start := old.now, pauses } : Watch).stop = k.time + watch.stop := by
    rw [clock, Shift.stop_watch]
  constructor
  · have middle : Echo k kept
        { old with
          coordinator := k.coordinator (fresh.coordinator.handle timings watch command).2.1
          now := k.time + watch.stop }
        { fresh with
          coordinator := (fresh.coordinator.handle timings watch command).2.1
          now := watch.stop } :=
      { echo with now := rfl, coordinator := rfl }
    simp only [World.handleSlowly, same, stop]
    exact middle.performs _
  · have announced := k.published_effect (fresh.coordinator.handle timings watch command).2.2
    simp only [exchange, same, stop, Shift.outcome, announced]
    rfl

/-- A leftover is handled while time goes by. -/
theorem handledStale (echo : Echo k kept old fresh) (timings : Timings)
    (begun : 0 < fresh.coordinator.generation) (pauses : List Span) {command : Command}
    (stale : k.isStale command = true) :
    Echo k kept (old.handleSlowly timings pauses command).2
        { fresh with now := fresh.now + pauses.foldl (· + ·) 0 } ∧
      Matches k [(Watch.stop { start := old.now, pauses },
        old.coordinator.exchange timings ({ start := old.now, pauses }, command))] [] := by
  have nothing : old.coordinator.handle timings { start := old.now, pauses } command =
      (.silent, old.coordinator, []) := by
    unfold Shift.isStale at stale
    cases belongs : command.round? with
    | none => rw [belongs] at stale; cases stale
    | some of =>
      rw [belongs, Option.any_some, decide_eq_true_eq] at stale
      refine handle_stale belongs (Nat.lt_of_le_of_lt stale ?_)
      rw [echo.coordinator, Shift.coordinator_generation]
      exact Nat.lt_add_of_pos_right begun
  have stop : ({ start := old.now, pauses } : Watch).stop =
      k.time + (fresh.now + pauses.foldl (· + ·) 0) := by
    rw [Watch.stop, ← Shift.foldl_add, ← Shift.foldl_add, echo.now]
    rfl
  constructor
  · simp only [World.handleSlowly, nothing]
    exact { echo with now := stop }
  · refine ⟨?_, fun found member _ => ?_⟩
    · refine List.filter_eq_nil_iff.mpr fun found member => ?_
      rw [List.mem_singleton.mp member, exchange, stale]
      exact Bool.false_ne_true
    · rw [List.mem_singleton.mp member]
      simp [exchange, nothing]

/-- Work with a ticket from before comes due, or there is no such work. -/
theorem stepFireStale (echo : Echo k kept old fresh) (timings : Timings) {ticket : Nat}
    (early : ticket < k.ticket) (outcome : Option Puzzle) :
    Echo k kept (old.step timings (.fire ticket outcome)) fresh := by
  obtain ⟨stale, tasks, left⟩ := echo.tasks
  rw [World.step]
  split
  · rename_i task found
    have same : task.ticket = ticket := by simpa using List.find?_some found
    have member := List.mem_of_find?_eq_some found
    rw [tasks] at member
    rcases List.mem_append.mp member with before | own
    · exact echo.fireStale (same ▸ early) (left task before).2 outcome
    · obtain ⟨begun, _, rfl⟩ := List.mem_map.mp own
      rw [← same] at early
      exact absurd early (Nat.not_lt_of_le (Nat.le_add_right _ _))
  · exact echo

/-- Work of the fresh world comes due in both, or there is no such work in either. -/
theorem stepFire (echo : Echo k kept old fresh) (timings : Timings)
    (belongs : fresh.BelongsTo (0 < ·)) (ticket : Nat) (outcome : Option Puzzle) :
    Echo k kept (old.step timings (.fire (k.ticket + ticket) outcome))
      (fresh.step timings (.fire ticket outcome)) := by
  obtain ⟨stale, tasks, left⟩ := echo.tasks
  have none : stale.find? (fun task => task.ticket == k.ticket + ticket) = none := by
    refine List.find?_eq_none.mpr fun task member same => ?_
    have early := (left task member).1
    rw [beq_iff_eq.mp same] at early
    exact absurd early (Nat.not_lt_of_le (Nat.le_add_right _ _))
  have found : old.tasks.find? (fun task => task.ticket == k.ticket + ticket) =
      (fresh.tasks.find? fun task => task.ticket == ticket).map k.task := by
    rw [tasks, List.find?_append, none, Option.none_or, List.find?_map]
    refine congrArg (Option.map k.task) ?_
    refine congrArg (List.find? · fresh.tasks) (funext fun task => ?_)
    rw [Function.comp_apply, Bool.eq_iff_iff, beq_iff_eq, beq_iff_eq, Shift.task_ticket]
    exact Nat.add_left_cancel_iff
  simp only [World.step, found]
  cases own : fresh.tasks.find? fun task => task.ticket == ticket with
  | none => exact echo
  | some task => exact echo.fire belongs (List.mem_of_find?_eq_some own) outcome

/-- **Every step and its counterpart keep the worlds together.** -/
theorem step (echo : Echo k kept old fresh) (timings : Timings)
    (dated : Dated fresh.coordinator fresh) (begun : 0 < fresh.coordinator.generation)
    (step : World.Step) :
    Echo k kept (old.step timings step) (fresh.step timings (k.counterpart old step)) ∧
      Matches k (old.exchange? timings step).toList
        (fresh.exchange? timings (k.counterpart old step)).toList := by
  have belongs : fresh.BelongsTo (0 < ·) := dated.belongs.mono fun _ opened => opened.1
  cases step with
  | ask request =>
    have asked := echo.post request.command (request.belongsTo _)
    have same : k.command request.command = request.command := by cases request <;> rfl
    rw [same] at asked
    exact ⟨asked, .nil⟩
  | wait span =>
    have later : old.now + span = k.time + (fresh.now + span) := by
      rw [echo.now, Nat.add_assoc]
    exact ⟨{ echo with now := later }, .nil⟩
  | fire ticket outcome =>
    rw [Shift.counterpart]
    split
    · rename_i early
      exact ⟨echo.stepFireStale timings early outcome, .nil⟩
    · rename_i late
      have fired := echo.stepFire timings belongs (ticket - k.ticket) outcome
      rw [Nat.add_sub_of_le (Nat.le_of_not_lt late)] at fired
      exact ⟨fired, .nil⟩
  | deliver pauses =>
    have waits := echo.mailbox
    cases waiting : old.mailbox with
    | nil =>
      rw [waiting] at waits
      have empty : fresh.mailbox = [] := List.map_eq_nil_iff.mp waits.symm
      simp only [Shift.counterpart, World.step, World.deliver, World.exchange?, waiting, empty]
      exact ⟨echo, .nil⟩
    | cons command rest =>
      rw [waiting] at waits
      cases stale : k.isStale command with
      | true =>
        rw [List.filter_cons_of_neg (by rw [stale]; exact Bool.false_ne_true)] at waits
        have taken : Echo k kept { old with mailbox := rest } fresh :=
          { echo with mailbox := waits }
        obtain ⟨after, answers⟩ := taken.handledStale timings begun pauses stale
        simp only [Shift.counterpart, World.step, World.deliver, World.exchange?, waiting,
          List.head?_cons, Option.any_some, stale, if_true]
        exact ⟨after, answers⟩
      | false =>
        rw [List.filter_cons_of_pos (by rw [stale]; rfl)] at waits
        obtain ⟨own, others, listed, rfl, same⟩ := List.map_eq_cons_iff.mp waits.symm
        have taken : Echo k kept { old with mailbox := rest } { fresh with mailbox := others } :=
          { echo with mailbox := same.symm }
        obtain ⟨after, answers⟩ := taken.handled timings pauses own
        simp only [Shift.counterpart, World.step, World.deliver, World.exchange?, waiting, listed,
          List.head?_cons, Option.any_some, stale, Bool.false_eq_true, if_false]
        refine ⟨after, ?_, fun found member left => ?_⟩
        · rw [Option.map_some, Option.map_some, Option.toList_some, Option.toList_some, answers]
          refine List.filter_cons_of_pos ?_
          change (!k.isStale (k.command own)) = true
          rw [stale]
          rfl
        · have handled : found.2.command = k.command own := by
            rw [List.mem_singleton.mp member]
            rfl
          rw [handled, stale] at left
          cases left

/-! ### Due times -/

/-- Work of the fresh world is due at the same offset in the old one. -/
theorem due_shift (echo : Echo k kept old fresh) {task : Task} (member : task ∈ fresh.tasks)
    {due : Span} (own : due ∈ task.job.due?) :
    k.task task ∈ old.tasks ∧ k.time + due ∈ (k.task task).job.due? := by
  obtain ⟨stale, tasks, -⟩ := echo.tasks
  constructor
  · rw [tasks]
    exact List.mem_append_right _ (List.mem_map_of_mem member)
  · obtain ⟨ticket, since, job⟩ := task
    cases job with
    | fetch _ _ => cases own
    | countDown _ _ _ | reminder _ _ =>
      obtain rfl := Option.some.inj own
      rfl

/-- What holds of the due times of the work that a step names holds of those of the work that its
counterpart names. -/
theorem due_named (echo : Echo k kept old fresh) {ticket : Nat} (late : ¬ ticket < k.ticket)
    {rule : Span → Prop}
    (holds : ∀ task ∈ old.tasks, task.ticket = ticket → ∀ due ∈ task.job.due?, rule due) :
    ∀ task ∈ fresh.tasks, task.ticket = ticket - k.ticket →
      ∀ due ∈ task.job.due?, rule (k.time + due) := by
  intro task member named due own
  obtain ⟨among, shifted⟩ := echo.due_shift member own
  refine holds (k.task task) among ?_ _ shifted
  rw [Shift.task_ticket, named]
  exact Nat.add_sub_of_le (Nat.le_of_not_lt late)

theorem clear (echo : Echo k kept old fresh) {span : Span} (clear : old.Clear span) :
    fresh.Clear span := by
  intro positive task member due own
  obtain ⟨among, shifted⟩ := echo.due_shift member own
  have later := clear positive (k.task task) among (k.time + due) shifted
  rw [echo.now, Nat.add_assoc] at later
  exact Nat.le_of_add_le_add_left later

/-- The fresh world is given nothing out of time while the old one is not. -/
theorem keepsTime (echo : Echo k kept old fresh) (step : World.Step) (keeps : old.KeepsTime step) :
    fresh.KeepsTime (k.counterpart old step) := by
  cases step with
  | ask request => trivial
  | wait span => exact echo.clear keeps
  | deliver pauses =>
    rw [Shift.counterpart]
    split
    · exact echo.clear keeps
    · exact echo.clear keeps
  | fire ticket outcome =>
    rw [Shift.counterpart]
    split
    · exact fun impossible => absurd impossible (Nat.lt_irrefl 0)
    · rename_i late
      intro task member named due own
      have present := echo.due_named late keeps task member named due own
      rw [echo.now] at present
      exact Nat.add_left_cancel present

theorem patient (echo : Echo k kept old fresh) (step : World.Step) (patient : old.Patient step) :
    fresh.Patient (k.counterpart old step) := by
  cases step with
  | ask request | wait span => trivial
  | deliver pauses =>
    rw [Shift.counterpart]
    split <;> trivial
  | fire ticket outcome =>
    rw [Shift.counterpart]
    split
    · trivial
    · rename_i late
      intro task member named due own
      have past := echo.due_named late patient task member named due own
      rw [echo.now] at past
      exact Nat.le_of_add_le_add_left past

/-! ### Runs -/

/-- Steps and their counterparts keep the worlds together. -/
theorem run (echo : Echo k kept old fresh) (timings : Timings)
    (dated : Dated fresh.coordinator fresh) (begun : 0 < fresh.coordinator.generation)
    (steps : List World.Step) :
    Echo k kept (old.run timings steps) (fresh.run timings (k.counterparts timings old steps)) ∧
      Matches k (old.exchanges timings steps)
        (fresh.exchanges timings (k.counterparts timings old steps)) := by
  induction steps generalizing old fresh with
  | nil => exact ⟨echo, .nil⟩
  | cons step rest ih =>
    obtain ⟨after, answers⟩ := echo.step timings dated begun step
    obtain ⟨last, others⟩ := ih after (dated.step _)
      (Nat.lt_of_lt_of_le begun (World.generation_le_step fresh _))
    exact ⟨last, answers.append others⟩

/-- A rule that passes from each step to its counterpart passes from a run to its counterpart. -/
theorem each_run {rule : World → World.Step → Prop}
    (passes : ∀ {old fresh : World}, Echo k kept old fresh → ∀ step, rule old step →
      rule fresh (k.counterpart old step))
    (echo : Echo k kept old fresh) (timings : Timings) (dated : Dated fresh.coordinator fresh)
    (begun : 0 < fresh.coordinator.generation) {steps : List World.Step}
    (each : EachAfter (fun before => rule (old.run timings before)) steps) :
    EachAfter (fun before => rule (fresh.run timings before))
      (k.counterparts timings old steps) := by
  induction steps generalizing old fresh with
  | nil => exact .nil
  | cons step rest ih =>
    obtain ⟨first, others⟩ := EachAfter.cons_iff.mp each
    refine EachAfter.cons_iff.mpr ⟨passes echo step first, ?_⟩
    exact ih (echo.step timings dated begun step).1 (dated.step _)
      (Nat.lt_of_lt_of_le begun (World.generation_le_step fresh _)) others

end Echo

/-! ### The beginning of a round -/

/-- A start after the end of a round does what a fresh start does, and gives up the timers. -/
theorem handle_start_after (timings : Timings) (watch : Watch) {old : World} (player : Player)
    (ended : old.coordinator.phase = .ended) :
    let k := Shift.after old
    let fresh := ({} : Coordinator).handle timings watch (.start player)
    old.coordinator.handle timings (k.watch watch) (.start player) =
      (fresh.1, k.coordinator fresh.2.1,
        old.coordinator.cancelTimers.2 ++ fresh.2.2.map k.effect) := by
  intro k fresh
  -- Everything that the numbers of the old coordinator enter into is counted on from them.
  have opened : old.coordinator.opened timings player (k.time + watch.reading 0) =
      k.coordinator (({} : Coordinator).opened timings player (watch.reading 0)) := rfl
  have effects : old.coordinator.openingEffects timings player (k.time + watch.reading 0) =
      (({} : Coordinator).openingEffects timings player (watch.reading 0)).map k.effect := rfl
  simp only [fresh, handle, start_of_resting (Or.inr ended),
    start_of_resting (Or.inl rfl : ({} : Coordinator).phase = .idle ∨ _), Shift.reading_watch,
    opened, effects, Shift.requestNext_coordinator, Shift.outcome, Shift.view_coordinator,
    List.append_assoc, List.map_append]
  rfl

/-- Once the timers are given up and the start is taken from the mailbox, all that is left is left
over. -/
theorem echo_beginning {old : World} {waiting : List Command} (coordinator : Coordinator)
    (now : Span) (sound : Sound old.coordinator old) (dated : Dated old.coordinator old)
    (among : ∀ command ∈ waiting, command ∈ old.mailbox) :
    Echo (Shift.after old) old.log
      (World.cancelled
        { old with
          mailbox := waiting
          coordinator := (Shift.after old).coordinator coordinator
          now := old.now + now } old.coordinator.timers)
      { mailbox := waiting.filter Command.isRequest, coordinator, now } := by
  rw [World.cancelled_eq]
  refine
    { now := rfl
      coordinator := rfl
      tasks := ⟨_, (List.append_nil _).symm, fun task member => ?_⟩
      mailbox := ?_
      log := (List.append_nil _).symm
      calls := rfl }
  · have under := (List.mem_filter.mp member).1
    have belongs := (dated.belongs.tasks task under).mono fun _ opened => opened.2
    exact ⟨(sound.known task under).ticket, belongs⟩
  · have kept : (waiting.filter Command.isRequest).map (Shift.after old).command =
        waiting.filter Command.isRequest :=
      (List.map_congr_left fun command member =>
        (Shift.after old).command_of_isRequest (List.mem_filter.mp member).2).trans (List.map_id _)
    rw [kept]
    refine List.filter_congr fun command member => ?_
    -- A command that waits belongs to no round or to one that has been opened.
    unfold Shift.isStale Command.isRequest
    cases belongs : command.round? with
    | none => rfl
    | some of =>
      have opened : of ≤ (Shift.after old).generation :=
        (dated.belongs.mailbox command (among command member) of belongs).2
      rw [Option.any_some, decide_eq_true opened]
      rfl

/-- **A start after the end of a round begins an echo of a fresh start.** -/
theorem echo_start (timings : Timings) {old : World} {player : Player} {waiting : List Command}
    (pauses : List Span) (ended : old.coordinator.phase = .ended)
    (sound : Sound old.coordinator old) (dated : Dated old.coordinator old)
    (next : old.mailbox = .start player :: waiting) :
    let k := Shift.after old
    let fresh : World := { mailbox := .start player :: waiting.filter Command.isRequest }
    Echo k old.log (old.deliver timings pauses) (fresh.deliver timings pauses) ∧
      Matches k (old.exchange? timings (.deliver pauses)).toList
        (fresh.exchange? timings (.deliver pauses)).toList := by
  intro k fresh
  let watch : Watch := { start := 0, pauses }
  let begun := ({} : Coordinator).handle timings watch (.start player)
  have same : old.coordinator.handle timings (k.watch watch) (.start player) = (begun.1,
      k.coordinator begun.2.1, old.coordinator.cancelTimers.2 ++ begun.2.2.map k.effect) :=
    handle_start_after timings watch player ended
  have stop : (k.watch watch).stop = k.time + watch.stop := k.stop_watch watch
  have clock : ({ start := old.now, pauses } : Watch) = k.watch watch := rfl
  constructor
  · have middle := echo_beginning begun.2.1 watch.stop sound dated
      fun command member => next ▸ List.mem_cons_of_mem (.start player) member
    have after := middle.performs begun.2.2
    simp only [World.deliver, next, World.handleSlowly, clock, stop]
    rw [same, List.foldl_append]
    exact after
  · have announced : published (old.coordinator.cancelTimers.2 ++ begun.2.2.map k.effect) =
        published begun.2.2 := by
      rw [published_append, published_cancelTimers, Shift.published_effect]
      rfl
    have told : old.coordinator.exchange timings (k.watch watch, .start player) =
        { command := .start player, reply := begun.1, events := published begun.2.2 } := by
      simp only [exchange, same, announced]
    simp only [World.exchange?, next, clock, stop, List.head?_cons, Option.map_some, told]
    refine ⟨?_, fun found member left => ?_⟩
    · rfl
    · rw [List.mem_singleton.mp member] at left
      cases left

/-- A fresh start opens the first round. -/
theorem generation_start (timings : Timings) (watch : Watch) (player : Player) :
    0 < (({} : Coordinator).handle timings watch (.start player)).2.1.generation := by
  have announced : .roundStarted player ∈
      published (({} : Coordinator).handle timings watch (.start player)).2.2 := by
    simp only [handle, start_of_resting (Or.inl rfl : ({} : Coordinator).phase = .idle ∨ _),
      published_append, published_cancelTimers]
    exact List.mem_append_left _ List.mem_cons_self
  rw [handle_generation_eq]
  exact Nat.add_pos_right _ (List.countP_pos_iff.mpr ⟨_, announced, rfl⟩)

/-! ### The main result -/

/-- **A new round does not depend on what was before.** After any run that has ended its last round,
let a start be the next command, whatever else waits or is under way, and let the run go on in any
way. A fresh coordinator that is given the start, the same requests at the same offsets, and the
same outcomes for the fetches of its own, announces the same at the same offsets and answers the
same; and what was left over is not answered and announces nothing.

Apart from leftovers, the same work is under way in both, due at the same offsets. If the run keeps
time, or at least no timer goes off early in it, then so it is for the fresh coordinator. -/
theorem replay_of_run (timings : Timings) (history later : List World.Step) (player : Player)
    (waiting : List Command) (pauses : List Span)
    (ended : (World.run timings {} history).coordinator.phase = .ended)
    (next : (World.run timings {} history).mailbox = .start player :: waiting) :
    let old := World.run timings {} history
    let fresh : World := { mailbox := .start player :: waiting.filter Command.isRequest }
    let k := Shift.after old
    let steps : List World.Step := .deliver pauses :: later
    let again := k.counterparts timings old steps
    let played := old.run timings steps
    let replayed := fresh.run timings again
    played.now = k.time + replayed.now ∧
      played.log = old.log ++ replayed.log.map k.entry ∧
      Matches k (old.exchanges timings steps) (fresh.exchanges timings again) ∧
      (∀ first second, played.coordinator.view (k.time + first) (k.time + second) =
        replayed.coordinator.view first second) ∧
      (∃ stale, played.tasks = stale ++ replayed.tasks.map k.task ∧
        ∀ task ∈ stale, task.ticket < k.ticket) ∧
      (EachAfter (fun before => (old.run timings before).KeepsTime) steps →
        EachAfter (fun before => (fresh.run timings before).KeepsTime) again) ∧
      (EachAfter (fun before => (old.run timings before).Patient) steps →
        EachAfter (fun before => (fresh.run timings before).Patient) again) := by
  intro old fresh k steps again played replayed
  have accounted := accounted_of_run timings history
  obtain ⟨begun, answers⟩ :=
    echo_start timings pauses ended accounted.sound (dated_of_run timings history) next
  have dated : Dated fresh.coordinator fresh := by
    refine ⟨fun impossible => Phase.noConfusion impossible, ⟨?_, ?_⟩⟩
    · intro task impossible
      cases impossible
    intro command member of belongs
    rcases List.mem_cons.mp member with rfl | request
    · cases belongs
    · have none := (List.mem_filter.mp request).2
      rw [Command.isRequest, belongs] at none
      cases none
  have opened : 0 < (fresh.deliver timings pauses).coordinator.generation := by
    simp only [fresh, World.deliver, World.handleSlowly]
    rw [(World.foldl_perform_frame _ _).2.1]
    exact generation_start timings _ player
  have first : k.counterpart old (.deliver pauses) = .deliver pauses := by
    rw [Shift.counterpart, next]
    rfl
  obtain ⟨echo, others⟩ := begun.run timings (dated.step (.deliver pauses)) opened later
  have parts :
      again = .deliver pauses :: k.counterparts timings (old.deliver timings pauses) later :=
    congrArg (· :: _) first
  have reached : replayed = (fresh.deliver timings pauses).run timings
      (k.counterparts timings (old.deliver timings pauses) later) := by
    rw [show replayed = fresh.run timings again from rfl, parts]
    rfl
  rw [← reached] at echo
  obtain ⟨stale, tasks, left⟩ := echo.tasks
  refine ⟨echo.now, echo.log, ?_, fun first second => ?_,
    ⟨stale, tasks, fun task member => (left task member).1⟩, fun each => ?_, fun each => ?_⟩
  · rw [parts]
    exact answers.append others
  · rw [show played.coordinator = k.coordinator replayed.coordinator from echo.coordinator]
    exact k.view_coordinator replayed.coordinator first second
  · -- The start finds no work under way in the fresh world.
    have start : fresh.KeepsTime (.deliver pauses) := fun _ _ impossible => by cases impossible
    rw [parts]
    exact EachAfter.cons_iff.mpr ⟨start, begun.each_run Echo.keepsTime timings
      (dated.step (.deliver pauses)) opened (EachAfter.cons_iff.mp each).2⟩
  · rw [parts]
    exact EachAfter.cons_iff.mpr ⟨trivial, begun.each_run Echo.patient timings
      (dated.step (.deliver pauses)) opened (EachAfter.cons_iff.mp each).2⟩

/-- A round is ended while its first fetch is under way, and another player asks for a round. -/
def leftover : List World.Step :=
  [.ask (.start (.fresh "ann")), .deliver [], .ask .finish, .deliver [],
    .ask (.start (.fresh "ben"))]

/-- The old fetch brings its puzzle into the new round, which then gets one of its own. -/
def intrusion : List World.Step :=
  [.fire 1 (some { image := [], solution := 4 }), .deliver [5],
    .fire 3 (some { image := [], solution := 7 }), .deliver [], .ask (.submit 7), .deliver []]

/-- For a fresh coordinator some time goes by instead, and nothing else is different. -/
theorem replay_of_run_intrusion :
    let old := World.run .standard {} leftover
    let fresh : World := { mailbox := [.start (.fresh "ben")] }
    let again : List World.Step :=
      [.deliver [], .wait 0, .wait 5, .fire 1 (some { image := [], solution := 7 }), .deliver [],
        .ask (.submit 7), .deliver []]
    (Shift.after old).counterparts .standard old (.deliver [] :: intrusion) = again ∧
      (old.run .standard (.deliver [] :: intrusion)).log =
        old.log ++ (fresh.run .standard again).log.map (Shift.after old).entry := by
  intro old fresh again
  have same : (Shift.after old).counterparts .standard old (.deliver [] :: intrusion) = again := by
    decide
  obtain ⟨_, log, _⟩ :=
    replay_of_run .standard leftover intrusion (.fresh "ben") [] [] (by decide) (by decide)
  rw [same] at log
  exact ⟨same, log⟩

end TimedQuiz.Coordinator
