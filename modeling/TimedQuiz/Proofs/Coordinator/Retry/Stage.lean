/-
**How far a round has got while its fetches fail.**

A failed fetch is tried again after a wait, as long as the round is active, and the flag stays set
all the while. What goes on is therefore told by the number of fetches that have been started.

* `Trial`: a round, the fetches that fail in it, and the one that brings a puzzle.
* `Trial.Trying`: where such a round stands between two steps: when its fetches were started, what
  is under way or waits for it, and what has been announced.
* `Trying.handled`: whatever command comes next, the round still stands like that.
-/

import TimedQuiz.Proofs.Coordinator.Scripted

namespace TimedQuiz.Coordinator

/-- What ending a round does to the world. -/
theorem World.foldl_closing (c : Coordinator) (event : Event) (world : World) :
    (c.cancelTimers.2 ++ [Effect.publish event]).foldl World.perform world =
      { world with
        tasks := world.tasks.filter fun task => decide (task.ticket ∉ c.timers)
        log := world.log ++ [(world.now, event)] } := by
  rw [List.foldl_append]
  exact congrArg (fun quiet => World.perform quiet (.publish event))
    (World.cancelled_eq world c.timers)

/-! ### A round and what the script holds for it -/

/-- A round whose fetches are followed. -/
structure Trial where
  timings : Timings
  script : Script
  /-- When the round is opened. -/
  start : Span
  generation : Nat
  /-- How many events are logged before. -/
  entries : Nat
  /-- How often the source is called before. -/
  calls : Nat
  /-- How many fetches fail. -/
  failures : Nat
  /-- What the next fetch brings. -/
  puzzle : Puzzle

namespace Trial

variable (trial : Trial)

/-- The answer to the fetch with a number; the first one has the number zero. -/
def attempt (number : Nat) : Attempt := trial.script.attempt (trial.calls + number)

/-- How long the fetch with a number takes. -/
def latency (number : Nat) : Span := (trial.attempt number).latency trial.timings.fetchTimeout

/-- When the fetch with a number is started, once those before it have failed. -/
def begins : Nat → Span
  | 0 => trial.start
  | number + 1 => begins number + trial.latency number + trial.timings.retryDelay

/-- When the fetch with a number completes. -/
def arrives (number : Nat) : Span := trial.begins number + trial.latency number

/-- When the time of the round is up. -/
def deadline : Span := trial.start + trial.timings.round

/-- The round lasts a while, the fetches fail as they should, and the next one brings the puzzle. -/
structure Fits : Prop where
  lasts : 0 < trial.timings.round
  fails : ∀ number < trial.failures,
    (trial.attempt number).result trial.timings.fetchTimeout = none
  brings : (trial.attempt trial.failures).result trial.timings.fetchTimeout = some trial.puzzle

theorem begins_mono : Monotone trial.begins :=
  monotone_nat_of_le_succ fun _ => Nat.le_trans (Nat.le_add_right _ _) (Nat.le_add_right _ _)

theorem arrives_mono : Monotone trial.arrives := by
  refine monotone_nat_of_le_succ fun number => ?_
  have waits : trial.begins (number + 1) = trial.arrives number + trial.timings.retryDelay := rfl
  have after : trial.arrives (number + 1) =
      trial.begins (number + 1) + trial.latency (number + 1) := rfl
  unfold Span at *
  omega

/-- A fetch that is tried again is started before the last one completes. -/
theorem begins_succ_le {number : Nat} (before : number < trial.failures) :
    trial.begins (number + 1) ≤ trial.arrives trial.failures :=
  Nat.le_trans (Nat.le_add_right _ _) (trial.arrives_mono before)

/-! ### What becomes known of the round -/

/-- What has been announced since the round was opened. -/
def told (world : World) : List (Span × Event) := world.log.drop trial.entries

/-- The puzzles that have been loaded. -/
def shown (world : World) : List (Span × Event) :=
  (trial.told world).filter fun entry => entry.2.kind == .puzzleLoaded

/-- How often the end of a round has been announced. -/
def ends (world : World) : Nat :=
  (trial.told world).countP fun entry => entry.2.kind == .roundEnded

/-- When the source has been called. -/
def made (world : World) : List Span := world.calls.drop trial.calls

/-- The puzzle has come in time, and only this one. -/
structure Brought (number : Nat) (world : World) : Prop where
  last : number = trial.failures
  inTime : trial.arrives trial.failures < trial.deadline
  shown : trial.shown world = [(trial.arrives trial.failures, .puzzleLoaded trial.puzzle)]

/-- The puzzle comes too late. -/
structure Missed (world : World) : Prop where
  late : trial.deadline ≤ trial.arrives trial.failures
  shown : trial.shown world = []

/-- How the round stands, by its phase and its flag. -/
inductive Standing (number : Nat) (c : Coordinator) (world : World) : Prop
  /-- A fetch or a wait before one is under way. -/
  | loading (running : c.phase = .running) (loading : c.loading = true)
      (unseen : trial.shown world = []) (on : trial.ends world = 0)
  /-- Nothing is fetched any more. -/
  | idle (running : c.phase = .running) (free : c.loading = false)
      (done : trial.Brought number world ∨ trial.Missed world) (on : trial.ends world = 0)
  /-- The round has been ended. -/
  | ended (resting : c.phase ≠ .running)
      (done : trial.Brought number world ∨ trial.Missed world) (once : trial.ends world = 1)

/-! ### What is under way for the round -/

/-- What the work may be, when the last fetch of the round has a number. -/
def OnCourse (number : Nat) (task : Task) : Prop :=
  match task.job with
  | .fetch of call =>
    of = trial.generation → call = trial.calls + number ∧ task.since = trial.begins number
  | .countDown _ _ _ => True
  | .reminder due (.retryDue of) =>
    of = trial.generation → number < trial.failures ∧ due = trial.begins (number + 1)
  | .reminder _ (.followUpDue of _) => of ≠ trial.generation
  | .reminder _ _ => False

/-- What a waiting command may be. Nobody asks for anything, and no answer has been graded. -/
def Expected (number : Nat) (now : Span) : Command → Prop
  | .fetched of outcome => of = trial.generation → now = trial.arrives number ∧
      outcome = (trial.attempt number).result trial.timings.fetchTimeout
  | .retryDue of =>
    of = trial.generation → number < trial.failures ∧ now = trial.begins (number + 1)
  | .followUpDue of _ => of ≠ trial.generation
  | .tick _ _ => True
  | .expired _ => True
  | _ => False

/-- Where the round stands between two steps, when its last fetch has a number. -/
structure Trying (number : Nat) (c : Coordinator) (world : World) : Prop where
  generation : c.generation = trial.generation
  clock : c.round.map Round.clock =
    some { startedAt := trial.start, duration := trial.timings.round }
  bound : number ≤ trial.failures
  inTime : trial.begins number < trial.deadline
  entries : trial.entries ≤ world.log.length
  called : world.calls.length = trial.calls + (number + 1)
  made : trial.made world = (List.range (number + 1)).map trial.begins
  tasks : ∀ task ∈ world.tasks, trial.OnCourse number task
  mailbox : ∀ command ∈ world.mailbox, trial.Expected number world.now command
  standing : trial.Standing number c world

variable {trial} {number other : Nat} {c next : Coordinator} {world later : World}

/-- Work that is no load of the round does not depend on the number of its fetches. -/
theorem OnCourse.of_no_load {task : Task} (course : trial.OnCourse number task)
    (stale : task.isLoadOf trial.generation = false) : trial.OnCourse other task := by
  obtain ⟨ticket, since, job⟩ := task
  cases job with
  | fetch of call => exact fun same => absurd same (beq_eq_false_iff_ne.mp stale)
  | countDown of clock due => trivial
  | reminder due command =>
    cases command with
    | retryDue of => exact fun same => absurd same (beq_eq_false_iff_ne.mp stale)
    | _ => exact course

theorem Expected.of_no_load {command : Command} {now : Span}
    (expected : trial.Expected number now command)
    (stale : command.isLoadOf trial.generation = false) : trial.Expected other now command := by
  cases command with
  | fetched of outcome => exact fun same => absurd same (beq_eq_false_iff_ne.mp stale)
  | retryDue of => exact fun same => absurd same (beq_eq_false_iff_ne.mp stale)
  | _ => exact expected

/-- What a reminder sends when it comes due is expected then. -/
theorem OnCourse.expected {ticket : Nat} {since now : Span} {command : Command}
    (course : trial.OnCourse number { ticket, since, job := .reminder now command }) :
    trial.Expected number now command := by
  cases command with
  | retryDue of => exact course
  | followUpDue of sequence => exact course
  | _ => exact course.elim

/-! ### A log that grows -/

section Log

variable {more : List (Span × Event)} (entries : trial.entries ≤ world.log.length)
  (log : later.log = world.log ++ more)
include entries log

theorem shown_append :
    trial.shown later =
      trial.shown world ++ more.filter fun entry => entry.2.kind == .puzzleLoaded := by
  rw [shown, told, log, List.drop_append_of_le_length entries, List.filter_append]
  rfl

theorem ends_append :
    trial.ends later =
      trial.ends world + more.countP fun entry => entry.2.kind == .roundEnded := by
  rw [ends, told, log, List.drop_append_of_le_length entries, List.countP_append]
  rfl

end Log

theorem made_append {more : List Span} (called : trial.calls ≤ world.calls.length)
    (calls : later.calls = world.calls ++ more) :
    trial.made later = trial.made world ++ more := by
  rw [Trial.made, calls, List.drop_append_of_le_length called]
  rfl

theorem done_congr (same : trial.shown later = trial.shown world)
    (done : trial.Brought number world ∨ trial.Missed world) :
    trial.Brought number later ∨ trial.Missed later := by
  rcases done with brought | missed
  · exact Or.inl ⟨brought.last, brought.inTime, same.trans brought.shown⟩
  · exact Or.inr ⟨missed.late, same.trans missed.shown⟩

namespace Trying

/-- The round goes on as it was: nothing is fetched, and neither a puzzle nor an end is told. -/
theorem goesOn (trying : trial.Trying number c world) (generation : next.generation = c.generation)
    (clock : next.round.map Round.clock = c.round.map Round.clock) (phase : next.phase = c.phase)
    (loading : next.loading = c.loading) {more : List (Span × Event)}
    (log : later.log = world.log ++ more)
    (quiet : ∀ entry ∈ more, entry.2.kind ≠ .puzzleLoaded ∧ entry.2.kind ≠ .roundEnded)
    (calls : later.calls = world.calls)
    (tasks : ∀ task ∈ later.tasks, trial.OnCourse number task)
    (mailbox : ∀ command ∈ later.mailbox, trial.Expected number later.now command) :
    trial.Trying number next later := by
  have unseen : (more.filter fun entry => entry.2.kind == .puzzleLoaded) = [] :=
    List.filter_eq_nil_iff.mpr fun entry member => by
      rw [beq_iff_eq]
      exact (quiet entry member).1
  have unended : (more.countP fun entry => entry.2.kind == .roundEnded) = 0 :=
    List.countP_eq_zero.mpr fun entry member => by
      rw [beq_iff_eq]
      exact (quiet entry member).2
  have shown : trial.shown later = trial.shown world := by
    rw [shown_append trying.entries log, unseen, List.append_nil]
  have ends : trial.ends later = trial.ends world := by
    rw [ends_append trying.entries log, unended, Nat.add_zero]
  refine
    { generation := generation.trans trying.generation
      clock := clock.trans trying.clock
      bound := trying.bound
      inTime := trying.inTime
      entries := ?_
      called := by rw [calls]; exact trying.called
      made := by rw [Trial.made, calls]; exact trying.made
      tasks, mailbox
      standing := ?_ }
  · rw [log, List.length_append]
    exact Nat.le_trans trying.entries (Nat.le_add_right _ _)
  · cases trying.standing with
    | loading running load unseen on =>
      exact .loading (phase.trans running) (loading.trans load) (shown.trans unseen)
        (ends.trans on)
    | idle running free done on =>
      exact .idle (phase.trans running) (loading.trans free) (done_congr shown done)
        (ends.trans on)
    | ended resting done once =>
      exact .ended (phase ▸ resting) (done_congr shown done) (ends.trans once)

/-! ### What has become of the round -/

/-- Until it is known whether the puzzle comes in time, it is being loaded and none has been. -/
theorem outcome (trying : trial.Trying number c world) :
    (c.phase = .running ∧ c.loading = true ∧ trial.shown world = []) ∨
      trial.Brought number world ∨ trial.Missed world := by
  cases trying.standing with
  | loading running loading unseen on => exact Or.inl ⟨running, loading, unseen⟩
  | idle running free done on => exact Or.inr done
  | ended resting done once => exact Or.inr done

theorem ends_le (trying : trial.Trying number c world) : trial.ends world ≤ 1 := by
  cases trying.standing with
  | loading running loading unseen on => exact on ▸ Nat.zero_le _
  | idle running free done on => exact on ▸ Nat.zero_le _
  | ended resting done once => exact Nat.le_of_eq once

/-- The end of a round that is over has been announced. -/
theorem ends_eq (trying : trial.Trying number c world) (resting : c.phase ≠ .running) :
    trial.ends world = 1 := by
  cases trying.standing with
  | loading running => exact absurd running resting
  | idle running => exact absurd running resting
  | ended _ done once => exact once

/-! ### The time of the round -/

/-- A running round is active until its time is up. -/
theorem isActive_iff (trying : trial.Trying number c world) (fits : trial.Fits)
    (coherent : Coherent c) (running : c.phase = .running) (now : Span) :
    c.isActive now = true ↔ now < trial.deadline := by
  obtain ⟨round, present, clock⟩ := Option.map_eq_some_iff.mp trying.clock
  have live := coherent.live running present
  have lasts := fits.lasts
  rw [isActive, present, Option.any_some, Round.isActive_iff, and_iff_right live, Round.elapsed,
    clock]
  show now - trial.start < trial.timings.round ↔ now < trial.start + trial.timings.round
  unfold Span at *
  omega

/-- Once the time of the round is up, it is known whether the puzzle has come in time. -/
theorem done_of_deadline (trying : trial.Trying number c world) (up : trial.deadline ≤ world.now)
    (ahead : c.loading = true → world.now ≤ trial.arrives trial.failures) :
    trial.Brought number world ∨ trial.Missed world := by
  rcases trying.outcome with ⟨_, loading, unseen⟩ | done
  · exact Or.inr ⟨Nat.le_trans up (ahead loading), unseen⟩
  · exact done

/-- Ending the round announces it once. -/
theorem finish (trying : trial.Trying number c world) (coherent : Coherent c)
    (running : c.phase = .running) (up : trial.deadline ≤ world.now)
    (ahead : c.loading = true → world.now ≤ trial.arrives trial.failures) :
    trial.Trying number c.finish.2.1 (c.finish.2.2.foldl World.perform world) := by
  obtain ⟨fresh, round, present, -⟩ := coherent.running running
  have on : trial.ends world = 0 := by
    cases trying.standing with
    | loading _ _ _ on => exact on
    | idle _ _ _ on => exact on
    | ended resting => exact absurd running resting
  let event : Event := .roundEnded round.close.player round.close.summary
  let later : World :=
    { world with
      tasks := world.tasks.filter fun task => decide (task.ticket ∉ c.timers)
      log := world.log ++ [(world.now, event)] }
  have log : later.log = world.log ++ [(world.now, event)] := rfl
  have shown : trial.shown later = trial.shown world :=
    (shown_append trying.entries log).trans (List.append_nil _)
  have closed : trial.Trying number { c with
      hasEnded := true
      phase := .ended
      round := some round.close
      countdown := none
      followUp := none
      retry := none } later := by
    refine
      { generation := trying.generation
        clock := ?_
        bound := trying.bound
        inTime := trying.inTime
        entries := ?_
        called := trying.called
        made := trying.made
        tasks := fun task member => trying.tasks task (List.mem_filter.mp member).1
        mailbox := trying.mailbox
        standing := .ended (fun impossible => by cases impossible) ?_ ?_ }
    · have clock := trying.clock
      rw [present] at clock
      exact clock
    · rw [log, List.length_append]
      exact Nat.le_trans trying.entries (Nat.le_add_right _ _)
    · exact done_congr shown (trying.done_of_deadline up ahead)
    · rw [ends_append trying.entries log, on]
      rfl
  have closing : (c.cancelTimers.2 ++ [Effect.publish event]).foldl World.perform world = later :=
    World.foldl_closing c event world
  rw [← closing] at closed
  simp only [Coordinator.finish, fresh, running, present]
  exact closed

/-! ### A fetch completes -/

/-- A failed fetch sets the wait for the next one. -/
theorem postpone (trying : trial.Trying number c world) (before : number < trial.failures)
    (present : world.now = trial.arrives number) :
    trial.Trying number { c with retry := some c.nextTicket, nextTicket := c.nextTicket + 1 }
      (world.perform
        (.remind c.nextTicket trial.timings.retryDelay (.retryDue trial.generation))) := by
  refine trying.goesOn rfl rfl rfl rfl (List.append_nil _).symm
    (fun _ impossible => by cases impossible) rfl (fun task member => ?_) trying.mailbox
  rcases List.mem_append.mp member with old | new
  · exact trying.tasks task old
  · rw [List.mem_singleton.mp new]
    exact fun _ => ⟨before, congrArg (· + trial.timings.retryDelay) present⟩

/-- The puzzle goes on display. -/
theorem display (trying : trial.Trying number c world) (last : number = trial.failures)
    (present : world.now = trial.arrives number) (early : world.now < trial.deadline)
    (running : c.phase = .running) (loading : c.loading = true) :
    trial.Trying number
      { c with loading := false, round := c.round.map fun round => round.display trial.puzzle }
      (world.perform (.publish (.puzzleLoaded trial.puzzle))) := by
  subst last
  let later := world.perform (.publish (.puzzleLoaded trial.puzzle))
  have log : later.log = world.log ++ [(world.now, .puzzleLoaded trial.puzzle)] := rfl
  obtain ⟨unseen, on⟩ : trial.shown world = [] ∧ trial.ends world = 0 := by
    cases trying.standing with
    | loading _ _ unseen on => exact ⟨unseen, on⟩
    | idle _ free => rw [loading] at free; cases free
    | ended resting => exact absurd running resting
  have shown : trial.shown later =
      [(trial.arrives trial.failures, .puzzleLoaded trial.puzzle)] := by
    rw [shown_append trying.entries log, unseen, ← present]
    rfl
  refine
    { generation := trying.generation
      clock := ?_
      bound := trying.bound
      inTime := trying.inTime
      entries := ?_
      called := trying.called
      made := trying.made
      tasks := trying.tasks
      mailbox := trying.mailbox
      standing := .idle running rfl (Or.inl ⟨rfl, present ▸ early, shown⟩) ?_ }
  · have clock := trying.clock
    rw [Option.map_map]
    exact clock
  · rw [log, List.length_append]
    exact Nat.le_trans trying.entries (Nat.le_add_right _ _)
  · rw [ends_append trying.entries log, on]
    rfl

/-- A fetch that completes when the time is up, or the round over, is given up. -/
theorem discard (trying : trial.Trying number c world) (present : world.now = trial.arrives number)
    (late : c.phase = .running → trial.deadline ≤ world.now) (loading : c.loading = true) :
    trial.Trying number { c with loading := false } world := by
  refine { trying with standing := ?_ }
  cases trying.standing with
  | loading running _ unseen on =>
    have passed := trial.arrives_mono trying.bound
    rw [← present] at passed
    exact .idle running rfl (Or.inr ⟨Nat.le_trans (late running) passed, unseen⟩) on
  | idle running free => rw [loading] at free; cases free
  | ended resting done once => exact .ended resting done once

/-- **A fetch completes**: it is tried again later, it brings the puzzle, or it comes too late. -/
theorem fetched (trying : trial.Trying number c world) (fits : trial.Fits) (coherent : Coherent c)
    {of : Nat} {outcome : Option Puzzle}
    (expected : trial.Expected number world.now (.fetched of outcome))
    (loading : of = trial.generation → c.loading = true) :
    trial.Trying number (c.fetched trial.timings world.now of outcome).1
      ((c.fetched trial.timings world.now of outcome).2.foldl World.perform world) := by
  unfold Coordinator.fetched
  by_cases current : of = c.generation
  · have own := current.trans trying.generation
    obtain ⟨present, rfl⟩ := expected own
    rw [if_neg (not_not_intro current)]
    split
    · rename_i playing
      have early := (trying.isActive_iff fits coherent playing.1 world.now).mp playing.2
      rcases Nat.lt_or_eq_of_le trying.bound with before | last
      · rw [fits.fails number before, own]
        exact trying.postpone before present
      · have brings := fits.brings
        rw [← last] at brings
        rw [brings]
        exact trying.display last present early playing.1 (loading own)
    · rename_i late
      refine trying.discard present (fun running => Nat.le_of_not_lt fun early => ?_) (loading own)
      exact late ⟨running, (trying.isActive_iff fits coherent running world.now).mpr early⟩
  · rw [if_pos current]
    exact trying

/-! ### A wait is over -/

/-- The next fetch is started, with no load of the round left from before. -/
theorem refetch (trying : trial.Trying number c world) (before : number < trial.failures)
    (present : world.now = trial.begins (number + 1)) (early : world.now < trial.deadline)
    (running : c.phase = .running) (loading : c.loading = true)
    (tasks : ∀ task ∈ world.tasks, task.isLoadOf trial.generation = false)
    (mailbox : ∀ command ∈ world.mailbox, command.isLoadOf trial.generation = false) :
    trial.Trying (number + 1)
      { c with retry := none, loading := true, nextTicket := c.nextTicket + 1 }
      (world.perform (.fetch c.nextTicket c.generation)) where
  generation := trying.generation
  clock := trying.clock
  bound := before
  inTime := present ▸ early
  entries := trying.entries
  called := by
    show (world.calls ++ [world.now]).length = _
    rw [List.length_append, trying.called]
    rfl
  made := by
    have called : trial.calls ≤ world.calls.length := trying.called ▸ Nat.le_add_right _ _
    rw [made_append called rfl, trying.made, present, List.range_succ (n := number + 1),
      List.map_append]
    rfl
  tasks task member := by
    rcases List.mem_append.mp member with old | new
    · exact (trying.tasks task old).of_no_load (tasks task old)
    · rw [List.mem_singleton.mp new]
      exact fun _ => ⟨trying.called, present⟩
  mailbox command member := (trying.mailbox command member).of_no_load (mailbox command member)
  standing := by
    cases trying.standing with
    | loading _ _ unseen on => exact .loading running rfl unseen on
    | idle _ free => rw [loading] at free; cases free
    | ended resting => exact absurd running resting

/-- **A wait is over**: the next fetch is started, or the round is found to have expired, or it has
been ended before. -/
theorem resumed (trying : trial.Trying number c world) (fits : trial.Fits) (coherent : Coherent c)
    (before : number < trial.failures) (present : world.now = trial.begins (number + 1))
    (loading : c.loading = true)
    (tasks : ∀ task ∈ world.tasks, task.isLoadOf trial.generation = false)
    (mailbox : ∀ command ∈ world.mailbox, command.isLoadOf trial.generation = false) :
    let asked := ({ c with retry := none, loading := false } : Coordinator).requestNext world.now
    ∃ following, trial.Trying following asked.2.1 (asked.2.2.foldl World.perform world) := by
  let resting : Coordinator := { c with retry := none, loading := false }
  intro asked
  have calm : Coherent resting := coherent.congr rfl rfl rfl fun _ _ => rfl
  by_cases running : c.phase = .running
  · have active : resting.isActive world.now = true ↔ world.now < trial.deadline :=
      trying.isActive_iff fits coherent running world.now
    by_cases early : world.now < trial.deadline
    · have fetches : asked = (.started,
          { c with retry := none, loading := true, nextTicket := c.nextTicket + 1 },
          [.fetch c.nextTicket c.generation]) := by
        have going : ¬ resting.phase ≠ .running := not_not_intro running
        show resting.requestNext world.now = _
        rw [requestNext, if_neg going, if_neg Bool.false_ne_true, if_pos (active.mpr early)]
      rw [fetches]
      exact ⟨number + 1, trying.refetch before present early running loading tasks mailbox⟩
    · have ends : asked = (.expired, resting.finish.2) := by
        have going : ¬ resting.phase ≠ .running := not_not_intro running
        show resting.requestNext world.now = _
        rw [requestNext, if_neg going, if_neg Bool.false_ne_true, if_neg (mt active.mp early)]
      have up := Nat.le_of_not_lt early
      have late : world.now ≤ trial.arrives trial.failures :=
        present ▸ trial.begins_succ_le before
      have idle : trial.Trying number resting world := by
        refine { trying with standing := ?_ }
        cases trying.standing with
        | loading _ _ unseen on =>
          exact .idle running rfl (Or.inr ⟨Nat.le_trans up late, unseen⟩) on
        | idle _ free => rw [loading] at free; cases free
        | ended resting => exact absurd running resting
      rw [ends]
      exact ⟨number, idle.finish calm running up fun _ => late⟩
  · have refuses : asked = (.notRunning, resting, []) := if_pos running
    rw [refuses]
    refine ⟨number, { trying with standing := ?_ }⟩
    cases trying.standing with
    | loading again => exact absurd again running
    | idle again => exact absurd again running
    | ended _ done once => exact .ended running done once

/-! ### Every command -/

/-- The time left is told. -/
theorem ticked (trying : trial.Trying number c world) (remaining : Span) :
    trial.Trying number c (world.perform (.publish (.tick remaining))) := by
  refine trying.goesOn rfl rfl rfl rfl rfl (fun entry member => ?_) rfl trying.tasks trying.mailbox
  rw [List.mem_singleton.mp member]
  exact ⟨fun impossible => (by cases impossible), fun impossible => (by cases impossible)⟩

/-- **Whatever command comes, the round still stands like that.** The command has been taken from
the mailbox; if it is a load, it was the only one, and if it is the end of the countdown, the time
is up. -/
theorem handled (trying : trial.Trying number c world) (fits : trial.Fits) (coherent : Coherent c)
    {command : Command} (expected : trial.Expected number world.now command)
    (alone : command.isLoadOf trial.generation = true → c.loading = true ∧
      (∀ task ∈ world.tasks, task.isLoadOf trial.generation = false) ∧
        ∀ other ∈ world.mailbox, other.isLoadOf trial.generation = false)
    (strikes : command = .expired trial.generation → c.phase = .running →
      trial.deadline ≤ world.now ∧
        (c.loading = true → world.now ≤ trial.arrives trial.failures)) :
    let result := c.handle trial.timings (.still world.now) command
    ∃ following, trial.Trying following result.2.1 (result.2.2.foldl World.perform world) := by
  cases command with
  | fetched of outcome =>
    refine ⟨number, trying.fetched fits coherent expected fun own => ?_⟩
    exact (alone (beq_iff_eq.mpr own)).1
  | retryDue of =>
    simp only [handle]
    split
    · rename_i current
      have own := current.trans trying.generation
      obtain ⟨before, present⟩ := expected own
      obtain ⟨loading, tasks, mailbox⟩ := alone (beq_iff_eq.mpr own)
      exact trying.resumed fits coherent before present loading tasks mailbox
    · exact ⟨number, trying⟩
  | followUpDue of sequence =>
    have other : of ≠ c.generation := fun current => expected (current.trans trying.generation)
    simp only [handle, other, false_and, if_false]
    exact ⟨number, trying⟩
  | tick of remaining =>
    simp only [handle]
    split
    · exact ⟨number, trying.ticked remaining⟩
    · exact ⟨number, trying⟩
  | expired of =>
    simp only [handle]
    split
    · rename_i current
      by_cases running : c.phase = .running
      · obtain ⟨up, ahead⟩ := strikes (by rw [current, trying.generation]) running
        exact ⟨number, trying.finish coherent running up ahead⟩
      · rw [finish_of_resting running]
        exact ⟨number, trying⟩
    · exact ⟨number, trying⟩
  | _ => exact expected.elim

/-! ### What is under way -/

/-- No load of the round is due later than the last fetch completes. -/
theorem due_le (trying : trial.Trying number c world) {task : Task} (member : task ∈ world.tasks)
    (load : task.isLoadOf trial.generation = true) :
    World.setDue trial.timings trial.script task ≤ trial.arrives trial.failures := by
  have course := trying.tasks task member
  obtain ⟨ticket, since, job⟩ := task
  cases job with
  | fetch of call =>
    obtain ⟨rfl, rfl⟩ := course (beq_iff_eq.mp load)
    rw [World.setDue_fetch]
    exact trial.arrives_mono trying.bound
  | countDown of clock due => cases load
  | reminder due command =>
    cases command with
    | retryDue of =>
      obtain ⟨before, rfl⟩ := course (beq_iff_eq.mp load)
      exact trial.begins_succ_le before
    | fetched of outcome => exact course.elim
    | _ => cases load

/-- No load of the round waits to be handled later than that. -/
theorem now_le (trying : trial.Trying number c world) {command : Command}
    (waits : command ∈ world.mailbox) (load : command.isLoadOf trial.generation = true) :
    world.now ≤ trial.arrives trial.failures := by
  have expected := trying.mailbox command waits
  cases command with
  | fetched of outcome =>
    rw [(expected (beq_iff_eq.mp load)).1]
    exact trial.arrives_mono trying.bound
  | retryDue of =>
    obtain ⟨before, present⟩ := expected (beq_iff_eq.mp load)
    rw [present]
    exact trial.begins_succ_le before
  | _ => cases load

/-- What is under way or waits may be something else, as long as it is as it should be. -/
theorem reworked (trying : trial.Trying number c world) {tasks : List Task} {mailbox : List Command}
    (course : ∀ task ∈ tasks, trial.OnCourse number task)
    (expected : ∀ command ∈ mailbox, trial.Expected number world.now command) :
    trial.Trying number c { world with tasks, mailbox } :=
  trying.goesOn rfl rfl rfl rfl (List.append_nil _).symm (fun _ impossible => by cases impossible)
    rfl course expected

theorem dropped (trying : trial.Trying number c world) (ticket : Nat) :
    trial.Trying number c (world.drop ticket) :=
  trying.reworked (fun task member => trying.tasks task (List.mem_filter.mp member).1)
    trying.mailbox

theorem posted (trying : trial.Trying number c world) {command : Command}
    (expected : trial.Expected number world.now command) :
    trial.Trying number c (world.post command) := by
  refine trying.reworked trying.tasks fun other waits => ?_
  rcases List.mem_append.mp waits with old | new
  · exact trying.mailbox other old
  · rw [List.mem_singleton.mp new]
    exact expected

/-- **Work that comes due on time sends what is expected.** -/
theorem fire (trying : trial.Trying number c world) {task : Task} (member : task ∈ world.tasks)
    (onTime : ∀ due ∈ task.job.due?, due = world.now) {outcome : Option Puzzle}
    (answered : ∀ attempt ∈ task.attempt? trial.script,
      World.setDue trial.timings trial.script task = world.now ∧
        outcome = attempt.result trial.timings.fetchTimeout) :
    trial.Trying number c (world.fire trial.timings task outcome) := by
  have course := trying.tasks task member
  obtain ⟨ticket, since, job⟩ := task
  cases job with
  | fetch of call =>
    refine (trying.dropped ticket).posted fun own => ?_
    obtain ⟨rfl, rfl⟩ := course own
    obtain ⟨present, brought⟩ := answered _ rfl
    rw [World.setDue_fetch] at present
    exact ⟨present.symm, brought⟩
  | reminder due command =>
    obtain rfl : due = world.now := onTime due rfl
    exact (trying.dropped ticket).posted course.expected
  | countDown of clock due =>
    have told : trial.Trying number c (world.post (.tick of (clock.remaining world.now))) :=
      trying.posted trivial
    simp only [World.fire]
    split
    · exact (told.dropped ticket).posted trivial
    · refine told.reworked (fun other among => ?_) told.mailbox
      obtain ⟨earlier, before, rfl⟩ := List.mem_map.mp among
      split
      · trivial
      · exact trying.tasks earlier before

end Trying
end Trial
end TimedQuiz.Coordinator
