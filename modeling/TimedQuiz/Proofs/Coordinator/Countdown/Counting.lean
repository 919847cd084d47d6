/-
**What the coordinator does to the countdown.**

* `Counting`: the countdown of the running round goes its course, no other is under way, and
  everything has been announced in time.
* `handle_counting`: a command that brings no news of the countdown keeps it on its course.
* `tick_counting`, `expired_counting`: so does the news of a look, and the end that the last look
  brings.
-/

import TimedQuiz.Proofs.Coordinator.Countdown.Stage
import TimedQuiz.Proofs.Coordinator.Expiry
import TimedQuiz.Proofs.Coordinator.Trail

namespace TimedQuiz.Coordinator

open Timeline (opened? looks)

variable {timings : Timings} {now : Span} {c next : Coordinator} {world later : World}

/-! ### What moves do to the countdown -/

/-- The follow-up is not held by the ticket of the countdown. -/
structure Apart (c : Coordinator) : Prop where
  given : ∀ ticket ∈ c.timers, ticket < c.nextTicket
  differs : ∀ ticket, c.countdown = some ticket → c.followUp ≠ some ticket

theorem Move.apart {watch : Watch} {arrival : Bool} {effects : List Effect}
    (move : Move timings watch arrival c effects next) (apart : Apart c) : Apart next := by
  refine ⟨move.timers_lt apart.given, ?_⟩
  cases move with
  | opening player resting =>
    intro ticket _ impossible
    cases impossible
  | closing running present fresh =>
    intro ticket impossible
    cases impossible
  | following =>
    intro ticket _ impossible
    cases impossible
  | scheduling running =>
    intro ticket held same
    have older := apart.given ticket (mem_timers.mpr (Or.inl held))
    exact absurd (Option.some.inj same) (Nat.ne_of_gt older)
  | _ => exact apart.differs

/-- The countdown of the running round goes its course, no other countdown is under way, and
everything has been announced in time. -/
structure Counting (timings : Timings) (c : Coordinator) (world : World) : Prop where
  clocked : Clocked timings c world.log
  apart : Apart c
  timely : EachAfter (Timely timings) world.log
  resting : c.phase ≠ .running → world.countdowns = []
  running : c.phase = .running →
    ∃ start, opened? world.log = some start ∧ Stage timings start c world

/-- The last look of a running round has not been told. -/
def Early (timings : Timings) (c : Coordinator) (world : World) : Prop :=
  c.phase = .running → looks world.log ≤ timings.lastLook

theorem Command.round?_of_isNewsOf {command : Command} {of : Nat}
    (news : command.isNewsOf of = true) : command.round? = some of := by
  cases command with
  | tick _ _ => exact congrArg some (beq_iff_eq.mp news)
  | expired _ => exact congrArg some (beq_iff_eq.mp news)
  | _ => cases news

namespace World

theorem countdowns_spawn (world : World) (ticket : Nat) (job : Job) :
    (world.spawn ticket job).countdowns =
      world.countdowns ++ [{ ticket, since := world.now, job : Task }].filter Task.isCountdown :=
  List.filter_append ..

theorem countdowns_cancelled (world : World) (tickets : List Nat) :
    (world.cancelled tickets).countdowns =
      world.countdowns.filter fun task => decide (task.ticket ∉ tickets) := by
  rw [countdowns, tasks_cancelled, List.filter_filter, countdowns, List.filter_filter]
  exact List.filter_congr fun _ _ => Bool.and_comm ..

end World

/-- The coordinator holds the ticket of a countdown that is under way. -/
theorem Stage.held {start : Span} (stage : Stage timings start c world) :
    ∀ task ∈ world.countdowns, c.countdown = some task.ticket := by
  cases stage with
  | waiting held ticking =>
    rw [ticking]
    intro task member
    rw [List.mem_singleton.mp member]
    exact held
  | found held ticking =>
    rw [ticking]
    intro task member
    rw [List.mem_singleton.mp member]
    exact held
  | spent done => simp [done]
  | told done => simp [done]

/-- Events that count are always announced in time. -/
theorem timely_append {line : List (Span × Event)} {events : List Event}
    (timely : EachAfter (Timely timings) line)
    (counts : ∀ event ∈ events, event.counts = true) :
    EachAfter (Timely timings) (line ++ events.map (now, ·)) := by
  refine timely.append fun entry member before => ?_
  obtain ⟨event, told, rfl⟩ := List.mem_map.mp member
  have counted := counts event told
  cases event with
  | tick remaining => cases counted
  | roundEnded player summary => cases counted
  | _ => trivial

namespace Counting

theorem held (counting : Counting timings c world) :
    ∀ task ∈ world.countdowns, c.countdown = some task.ticket := by
  by_cases running : c.phase = .running
  · obtain ⟨start, _, stage⟩ := counting.running running
    exact stage.held
  · simp [counting.resting running]

/-- Cancelling the follow-up leaves the countdown alone, and giving up the timers takes it away. -/
theorem cancelled (counting : Counting timings c world) :
    (world.cancelled c.followUp.toList).countdowns = world.countdowns ∧
      (world.cancelled c.timers).countdowns = [] := by
  rw [World.countdowns_cancelled, World.countdowns_cancelled]
  constructor
  · refine List.filter_eq_self.mpr fun task member => ?_
    rw [decide_eq_true_eq, Option.mem_toList]
    exact counting.apart.differs task.ticket (counting.held task member)
  · refine List.filter_eq_nil_iff.mpr fun task member => ?_
    rw [decide_eq_true_eq]
    exact not_not_intro (mem_timers.mpr (Or.inl (counting.held task member)))

variable {effects : List Effect}

/-- A round goes on: its countdown is left alone, and all that is announced counts. -/
theorem goesOn (counting : Counting timings c world) (early : Early timings c world)
    (clocked : Clocked timings next (effects.foldl World.perform world).log) (apart : Apart next)
    (counts : ∀ event ∈ published effects, event.counts = true) (phase : next.phase = c.phase)
    (generation : next.generation = c.generation) (held : next.countdown = c.countdown)
    (countdowns : (effects.foldl World.perform world).countdowns = world.countdowns) :
    Early timings next (effects.foldl World.perform world) ∧
      Counting timings next (effects.foldl World.perform world) := by
  obtain ⟨mailbox, _, now⟩ := World.foldl_perform_frame effects world
  have log := World.log_foldl_perform effects world
  obtain ⟨opened, same⟩ := Timeline.append_of_counts world.log world.now counts
  rw [← log] at opened same
  refine ⟨?_, { clocked, apart, timely := ?_, resting := ?_, running := ?_ }⟩
  · unfold Early
    rw [phase, same]
    exact early
  · rw [log]
    exact timely_append counting.timely counts
  · rw [phase, countdowns]
    exact counting.resting
  · rw [phase, opened]
    intro running
    obtain ⟨start, on, stage⟩ := counting.running running
    refine ⟨start, on, stage.congr generation held countdowns mailbox now same fun last => ?_⟩
    have before := early running
    rw [last] at before
    exact absurd before (Nat.not_succ_le_self _)

/-- A countdown begins with its round. -/
theorem opening (counting : Counting timings c world) (player : Player)
    (dated : Dated c world) :
    let effects : List Effect := c.cancelTimers.2 ++ [.publish (.roundStarted player),
      .countDown c.nextTicket (c.generation + 1)
        { startedAt := world.now, duration := timings.round }]
    let later := effects.foldl World.perform world
    opened? later.log = some world.now ∧ looks later.log = 0 ∧
      Stage timings world.now
        { c with generation := c.generation + 1, countdown := some c.nextTicket } later := by
  intro effects later
  have log : later.log = world.log ++ [(world.now, .roundStarted player)] := by
    rw [World.log_foldl_perform, published_append, published_cancelTimers]
    rfl
  obtain ⟨mailbox, _, now⟩ := World.foldl_perform_frame effects world
  have first : looks later.log = 0 := by
    rw [log]
    exact Timeline.looks_concat ..
  have begun : later.countdowns = [{
      ticket := c.nextTicket, since := world.now
      job := .countDown (c.generation + 1) { startedAt := world.now, duration := timings.round }
        (timings.look world.now 0) }] := by
    have same : (world.cancelled c.timers).now = world.now :=
      (World.foldl_perform_frame _ world).2.2
    have parts : later.countdowns =
        ((world.cancelled c.timers).spawn c.nextTicket (.countDown (c.generation + 1)
          { startedAt := world.now, duration := timings.round }
          (world.cancelled c.timers).now)).countdowns := by
      simp only [later, effects, List.foldl_append]
      rfl
    rw [parts, World.countdowns_spawn, counting.cancelled.2, same, Timings.look_zero]
    rfl
  refine ⟨?_, first, ?_⟩
  · rw [log]
    exact Timeline.opened?_concat ..
  · rw [← first] at begun
    refine .waiting rfl begun ?_ ?_ ?_ ?_
    · intro command member
      rw [mailbox] at member
      refine eq_false_of_ne_true fun news => ?_
      have belongs := Command.round?_of_isNewsOf news
      exact Nat.not_succ_le_self _ (dated.belongs.mailbox command member _ belongs).2
    · rw [first]
      intro number impossible
      exact absurd impossible (Nat.not_lt_zero _)
    · rw [first, Timings.look_zero]
      exact Nat.le_of_eq now
    · rw [first]
      exact Nat.zero_le _

/-- Ending the round takes its countdown away, whatever waits then. -/
theorem closing (counting : Counting timings c world) (ticks : 0 < timings.tick) {round : Round}
    (running : c.phase = .running) (present : c.round = some round) (fresh : c.hasEnded = false)
    (mailbox : List Command) :
    Counting timings
      { c with
        hasEnded := true
        phase := .ended
        round := some round.close
        countdown := none
        followUp := none
        retry := none }
      (List.foldl World.perform { world with mailbox }
        (c.cancelTimers.2 ++ [.publish (.roundEnded round.close.player round.close.summary)])) := by
  have move : Move timings (.still world.now) false c _ _ := .closing running present fresh
  have clocked := move.clocked counting.clocked
  have log := World.log_foldl_perform
    (c.cancelTimers.2 ++ [.publish (.roundEnded round.close.player round.close.summary)])
    { world with mailbox }
  rw [← log] at clocked
  rw [published_append, published_cancelTimers] at log
  obtain ⟨start, on, stage⟩ := counting.running running
  refine
    { clocked
      apart := move.apart counting.apart
      timely := ?_
      resting := fun _ => ?_
      running := fun impossible => by cases impossible }
  · rw [log]
    exact counting.timely.concat ⟨start, on, stage.now_le, fun _ => stage.lt_looks ticks⟩
  · have none := counting.cancelled.2
    rw [World.countdowns_cancelled] at none
    rw [List.foldl_append]
    exact (World.countdowns_cancelled { world with mailbox } c.timers).trans none

end Counting

/-- **Every move but the telling of the time left keeps the countdown on its course**, as long as
the last look has not been told. -/
theorem Move.counting {arrival : Bool} {effects : List Effect}
    (move : Move timings (.still now) arrival c effects next) (still : world.now = now)
    (ticks : 0 < timings.tick) (dated : Dated c world)
    (untold : ∀ remaining, .tick remaining ∉ published effects)
    (early : Early timings c world) (counting : Counting timings c world) :
    Early timings next (effects.foldl World.perform world) ∧
      Counting timings next (effects.foldl World.perform world) := by
  have clocked := move.clocked counting.clocked
  have apart := move.apart counting.apart
  rw [← still, ← World.log_foldl_perform] at clocked
  have log := World.log_foldl_perform effects world
  obtain ⟨kept, none⟩ := counting.cancelled
  cases move with
  | opening player resting =>
    obtain ⟨opened, first, stage⟩ := counting.opening player dated
    rw [published_append, published_cancelTimers] at log
    subst still
    refine ⟨fun _ => Nat.le_trans (Nat.le_of_eq first) (Nat.zero_le _), ?_⟩
    exact
      { clocked, apart
        timely := by
          rw [log]
          exact counting.timely.concat trivial
        resting := fun impossible => absurd rfl impossible
        running := fun _ =>
          ⟨world.now, opened, stage.congr rfl rfl rfl rfl rfl rfl fun _ => rfl⟩ }
  | closing running present fresh =>
    subst still
    exact ⟨fun impossible => Phase.noConfusion impossible,
      counting.closing ticks running present fresh world.mailbox⟩
  | scheduling running =>
    refine counting.goesOn early clocked apart ?_ rfl rfl rfl ?_
    · rw [published_scheduleFollowUp]
      simp
    · rw [scheduleFollowUp, List.foldl_append]
      refine (World.countdowns_spawn ..).trans ?_
      exact (List.append_nil _).trans kept
  | ticking remaining running => exact absurd List.mem_cons_self (untold remaining)
  | fetching number running free active =>
    refine counting.goesOn early clocked apart ?_ rfl rfl rfl ?_
    · simp [published, Effect.event?, Event.counts]
    · exact (World.countdowns_spawn ..).trans (List.append_nil _)
  | postponing running active =>
    refine counting.goesOn early clocked apart ?_ rfl rfl rfl ?_
    · simp [published, Effect.event?, Event.counts]
    · exact (World.countdowns_spawn ..).trans (List.append_nil _)
  | grading value running present shown active =>
    refine counting.goesOn early clocked apart ?_ rfl rfl rfl rfl
    simp [published, Effect.event?, Event.counts]
  | displaying puzzle running present active =>
    refine counting.goesOn early clocked apart ?_ rfl rfl rfl rfl
    simp [published, Effect.event?, Event.counts]
  | following => exact counting.goesOn early clocked apart (by simp) rfl rfl rfl rfl
  | discarding late => exact counting.goesOn early clocked apart (by simp) rfl rfl rfl rfl
  | resuming => exact counting.goesOn early clocked apart (by simp) rfl rfl rfl rfl

/-! ### Commands -/

/-- The coordinator tells the time left only when the countdown of the round that is on says so. -/
theorem tick_of_handle {watch : Watch} {command : Command} {remaining : Span}
    (tells : .tick remaining ∈ published (c.handle timings watch command).2.2) :
    command = .tick c.generation remaining ∧ c.phase = .running := by
  have kind : Event.Kind.tick ∈ command.kinds := handle_kinds tells
  cases command with
  | tick of found =>
    simp only [handle] at tells
    split at tells
    · rename_i current
      obtain ⟨rfl, running⟩ := current
      cases List.mem_singleton.mp tells
      exact ⟨rfl, running⟩
    · cases tells
  | _ => simp [Command.kinds] at kind

/-- The countdown of a round ends no other round. -/
theorem roundEnded_of_expired {watch : Watch} {of : Nat} {player : Player} {summary : Summary}
    (ends : .roundEnded player summary ∈ published (c.handle timings watch (.expired of)).2.2) :
    of = c.generation ∧ c.phase = .running := by
  simp only [handle] at ends
  split at ends
  · rename_i current
    refine ⟨current, ?_⟩
    simp only [finish] at ends
    split at ends
    · assumption
    · cases ends
  · cases ends

/-- **A command that brings no news of the countdown keeps it on its course.** -/
theorem handle_counting (still : world.now = now) (ticks : 0 < timings.tick)
    (dated : Dated c world) {command : Command}
    (other : command.isNewsOf c.generation = false) (early : Early timings c world)
    (counting : Counting timings c world) :
    Counting timings (c.handle timings (.still now) command).2.1
      ((c.handle timings (.still now) command).2.2.foldl World.perform world) := by
  have untold : ∀ remaining,
      .tick remaining ∉ published (c.handle timings (.still now) command).2.2 := by
    intro remaining tells
    rw [(tick_of_handle tells).1, Command.isNewsOf, beq_self_eq_true] at other
    cases other
  let holds (next : Coordinator) (done : List Effect) : Prop :=
    Dated next (done.foldl World.perform world) ∧
      ((∀ remaining, .tick remaining ∉ published done) →
        Early timings next (done.foldl World.perform world) ∧
          Counting timings next (done.foldl World.perform world))
  have kept : holds (c.handle timings (.still now) command).2.1
      (c.handle timings (.still now) command).2.2 := by
    refine handle_holds holds ?_ command ⟨dated, fun _ => ⟨early, counting⟩⟩
    rintro arrival c next done effects move ⟨dated, before⟩
    have same := (World.foldl_perform_frame done world).2.2.trans still
    simp only [holds, List.foldl_append, published_append, List.mem_append, not_or]
    refine ⟨move.dated dated, fun untold => ?_⟩
    obtain ⟨early, counting⟩ := before fun remaining => (untold remaining).1
    exact move.counting same ticks dated (fun remaining => (untold remaining).2) early counting
  exact (kept.2 untold).2

/-! ### News of the countdown -/

theorem Quiet.left {generation : Nat} {before after : List Command}
    (quiet : Quiet generation (before ++ after)) : Quiet generation before :=
  fun command member => quiet command (List.mem_append_left _ member)

/-- News that waits at the head of the mailbox is the first news in it. -/
theorem Quiet.first {generation : Nat} {news first : Command} {rest before after : List Command}
    (quiet : Quiet generation before) (isNews : news.isNewsOf generation = true)
    (same : news :: rest = before ++ first :: after) :
    before = [] ∧ first = news ∧ after = rest := by
  cases before with
  | nil =>
    obtain ⟨head, tail⟩ := List.cons.inj same
    exact ⟨rfl, head.symm, tail.symm⟩
  | cons other fewer =>
    have silent := quiet other List.mem_cons_self
    rw [← (List.cons.inj same).1, isNews] at silent
    cases silent

/-- Nothing is announced, and the countdown of a running round takes a step of its own course. -/
theorem Counting.staged (counting : Counting timings c world) (log : later.log = world.log)
    (gone : world.countdowns = [] → later.countdowns = [])
    (stage : c.phase = .running → ∀ start, Stage timings start c world →
      Stage timings start c later) : Counting timings c later where
  clocked := by rw [log]; exact counting.clocked
  apart := counting.apart
  timely := by rw [log]; exact counting.timely
  resting resting := gone (counting.resting resting)
  running running := by
    obtain ⟨start, on, before⟩ := counting.running running
    exact ⟨start, by rw [log]; exact on, stage running start before⟩

/-- While no round is running, it does not matter what waits. -/
theorem Counting.rests (counting : Counting timings c world) (resting : c.phase ≠ .running)
    (rest : List Command) : Counting timings c { world with mailbox := rest } :=
  counting.staged rfl id fun running => absurd running resting

/-- The news of a look is announced while the round is running. -/
theorem tick_counting (ticks : 0 < timings.tick) {remaining : Span} {rest : List Command}
    (waiting : world.mailbox = .tick c.generation remaining :: rest) (running : c.phase = .running)
    (counting : Counting timings c world) :
    Counting timings c
      { world with mailbox := rest, log := world.log ++ [(world.now, .tick remaining)] } := by
  obtain ⟨start, on, stage⟩ := counting.running running
  have isNews : (Command.tick c.generation remaining).isNewsOf c.generation = true :=
    beq_self_eq_true c.generation
  have opened := (Timeline.opened?_concat world.log (world.now, .tick remaining)).trans on
  have counted : looks (world.log ++ [(world.now, .tick remaining)]) = looks world.log + 1 :=
    Timeline.looks_concat ..
  have clocked : Clocked timings c (world.log ++ [(world.now, .tick remaining)]) :=
    (Move.ticking remaining running : Move timings (.still world.now) ..).clocked counting.clocked
  -- It is left to see that the news is right and which stage comes next.
  suffices goes : Timely timings world.log (world.now, .tick remaining) ∧
      Stage timings start c
        { world with mailbox := rest, log := world.log ++ [(world.now, .tick remaining)] } from
    { clocked
      apart := counting.apart
      timely := counting.timely.concat goes.1
      resting := fun resting => absurd running resting
      running := fun _ => ⟨start, opened, goes.2⟩ }
  cases stage with
  | waiting held ticking quiet past ahead within =>
    have silent := quiet (.tick c.generation remaining) (waiting ▸ List.mem_cons_self)
    rw [isNews] at silent
    cases silent
  | found held ticking mailbox quiet present within =>
    obtain ⟨rfl, head, rfl⟩ := quiet.left.first isNews (waiting.symm.trans mailbox)
    cases head
    rw [← counted] at ticking
    refine ⟨⟨start, on, present, rfl, Nat.le_of_lt within⟩, .waiting held ticking quiet ?_ ?_ ?_⟩
    · rw [counted]
      intro number before
      rw [present]
      exact timings.look_le_look start (Nat.le_of_lt_succ before)
    · rw [counted, present]
      exact timings.look_le_look start (Nat.le_succ _)
    · rw [counted]
      exact within
  | spent done mailbox quiet present last =>
    obtain ⟨rfl, head, rfl⟩ := quiet.left.first isNews (waiting.symm.trans mailbox)
    cases head
    have up : 0 = timings.round - looks world.log * timings.tick :=
      ((Timings.left_eq_zero_iff ticks).mpr (Nat.le_of_eq last.symm)).symm
    refine ⟨⟨start, on, present, up, Nat.le_of_eq last⟩, .told done rfl quiet ?_ ?_ rfl⟩
    · rw [present, last]
    · rw [counted, last]
  | told done mailbox quiet present last log =>
    cases (List.cons.inj (waiting.symm.trans mailbox)).1

/-- The countdown ends the round in its last stage only. -/
theorem expired_told {rest : List Command} {start : Span}
    (waiting : world.mailbox = .expired c.generation :: rest)
    (stage : Stage timings start c world) :
    world.now = timings.look start timings.lastLook ∧
      ∃ earlier, world.log = earlier ++ [(world.now, .tick 0)] := by
  have isNews : (Command.expired c.generation).isNewsOf c.generation = true :=
    beq_self_eq_true c.generation
  cases stage with
  | waiting held ticking quiet past ahead within =>
    have silent := quiet (.expired c.generation) (waiting ▸ List.mem_cons_self)
    rw [isNews] at silent
    cases silent
  | found held ticking mailbox quiet present within =>
    cases (quiet.left.first isNews (waiting.symm.trans mailbox)).2.1
  | spent done mailbox quiet present last =>
    cases (quiet.left.first isNews (waiting.symm.trans mailbox)).2.1
  | told done mailbox quiet present last log => exact ⟨present, _, log⟩

theorem expired_counting (ticks : 0 < timings.tick) (coherent : Coherent c)
    (running : c.phase = .running) (counting : Counting timings c world) (rest : List Command) :
    Counting timings (c.handle timings (.still now) (.expired c.generation)).2.1
      ((c.handle timings (.still now) (.expired c.generation)).2.2.foldl World.perform
        { world with mailbox := rest }) := by
  obtain ⟨fresh, round, present, _⟩ := coherent.running running
  have ends := counting.closing ticks running present fresh rest
  simp only [handle, if_true, finish, fresh, running, present]
  exact ends

end TimedQuiz.Coordinator
