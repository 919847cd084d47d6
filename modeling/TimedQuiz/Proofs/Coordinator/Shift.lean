/-
**The coordinator does not look at numbers, only compares them.**

Rounds, follow-ups and tickets are counted through, and every time is the reading of a clock that
was started long ago. A shift adds a fixed amount to each of these.

* `Shift.handle_coordinator`: a shifted coordinator that is told something shifted gives the same
  answer, and does the same things, shifted.
-/

import Mathlib.Tactic.Simps.Basic
import TimedQuiz.Coordinator.World
import TimedQuiz.Coordinator.Run

namespace TimedQuiz.Coordinator

/-! ### What a start does -/

/-- The coordinator once a round has been opened. -/
def opened (timings : Timings) (c : Coordinator) (player : Player) (now : Span) : Coordinator :=
  { c with
    phase := .running
    generation := c.generation + 1
    round := some (Round.openedAt player timings.round now)
    hasEnded := false
    loading := false
    followUp := none
    retry := none
    countdown := some c.nextTicket
    nextTicket := c.nextTicket + 1 }

/-- What opening a round does to the outside. -/
def openingEffects (timings : Timings) (c : Coordinator) (player : Player) (now : Span) :
    List Effect :=
  [.publish (.roundStarted player),
    .countDown c.nextTicket (c.generation + 1) { startedAt := now, duration := timings.round }]

/-- While no round is on, a start gives up the timers, opens a round and asks for its first
puzzle. -/
theorem start_of_resting {timings : Timings} {watch : Watch} {c : Coordinator} {player : Player}
    (resting : c.phase = .idle ∨ c.phase = .ended) :
    c.start timings watch player =
      let asked := (c.opened timings player (watch.reading 0)).requestNext (watch.reading 1)
      (.ok (asked.2.1.view (watch.reading 2) (watch.reading 3)), asked.2.1,
        c.cancelTimers.2 ++ c.openingEffects timings player (watch.reading 0) ++ asked.2.2) := by
  unfold start
  rcases resting with idle | ended
  · rw [idle]
    rfl
  · rw [ended]
    rfl

/-- Otherwise a start is refused. -/
theorem start_refused {c : Coordinator} (busy : ¬(c.phase = .idle ∨ c.phase = .ended)) :
    ∃ refusal, c.phase.apply .start = .error refusal := by
  cases phase : c.phase with
  | idle => exact absurd (Or.inl phase) busy
  | ended => exact absurd (Or.inr phase) busy
  | running => exact ⟨_, rfl⟩
  | ending => exact ⟨_, rfl⟩

/-! ### Shifts -/

/-- How far apart two numberings are. -/
structure Shift where
  time : Span
  generation : Nat
  sequence : Nat
  ticket : Nat
  /-- The calls of the source. -/
  call : Nat
  deriving DecidableEq, Repr

namespace Shift

variable (k : Shift)

/-! ### Shifted data -/

@[simps]
def clock (clock : Clock) : Clock := { clock with startedAt := k.time + clock.startedAt }

@[simps]
def round (round : Round) : Round := { round with clock := k.clock round.clock }

@[simps]
def watch (watch : Watch) : Watch := { watch with start := k.time + watch.start }

@[simps]
def coordinator (c : Coordinator) : Coordinator :=
  { c with
    round := c.round.map k.round
    generation := k.generation + c.generation
    nextTicket := k.ticket + c.nextTicket
    followUpSequence := k.sequence + c.followUpSequence
    followUp := c.followUp.map (k.ticket + ·)
    retry := c.retry.map (k.ticket + ·)
    countdown := c.countdown.map (k.ticket + ·) }

/-- Requests stay as they are. -/
def command : Command → Command
  | .fetched of outcome => .fetched (k.generation + of) outcome
  | .retryDue of => .retryDue (k.generation + of)
  | .followUpDue of sequence => .followUpDue (k.generation + of) (k.sequence + sequence)
  | .tick of remaining => .tick (k.generation + of) remaining
  | .expired of => .expired (k.generation + of)
  | request => request

def effect : Effect → Effect
  | .publish event => .publish event
  | .fetch ticket of => .fetch (k.ticket + ticket) (k.generation + of)
  | .countDown ticket of clock => .countDown (k.ticket + ticket) (k.generation + of) (k.clock clock)
  | .remind ticket delay command => .remind (k.ticket + ticket) delay (k.command command)
  | .cancel ticket => .cancel (k.ticket + ticket)

def job : Job → Job
  | .fetch of call => .fetch (k.generation + of) (k.call + call)
  | .countDown of clock due => .countDown (k.generation + of) (k.clock clock) (k.time + due)
  | .reminder due command => .reminder (k.time + due) (k.command command)

@[simps]
def task (task : Task) : Task :=
  { ticket := k.ticket + task.ticket, since := k.time + task.since, job := k.job task.job }

/-- What handling something gives: the answer stays as it is. -/
@[simps]
def outcome {α : Type} (result : α × Coordinator × List Effect) :
    α × Coordinator × List Effect :=
  (result.1, k.coordinator result.2.1, result.2.2.map k.effect)

/-! ### Time -/

section Time

variable (now : Span)

@[simp]
theorem remaining_clock (clock : Clock) :
    (k.clock clock).remaining (k.time + now) = clock.remaining now := by
  unfold Clock.remaining Clock.elapsed Shift.clock
  exact congrArg _ (Nat.add_sub_add_left ..)

@[simp]
theorem isActive_round (round : Round) :
    (k.round round).isActive (k.time + now) = round.isActive now := by
  simp [Round.isActive, Clock.isExpired]

theorem grade_round (round : Round) (value : Int) :
    (k.round round).grade (k.time + now) value =
      ((round.grade now value).1, k.round (round.grade now value).2) := by
  unfold Round.grade
  rw [isActive_round, round_puzzle]
  cases round.isActive now with
  | false => rfl
  | true =>
    cases round.puzzle with
    | none => rfl
    | some puzzle => rfl

@[simp]
theorem isActive_coordinator (c : Coordinator) :
    (k.coordinator c).isActive (k.time + now) = c.isActive now := by
  unfold Coordinator.isActive
  rw [coordinator_round]
  cases c.round <;> simp

/-- The same pauses lead as far from wherever they begin. -/
theorem foldl_add (offset : Span) (pauses : List Span) (start : Span) :
    pauses.foldl (· + ·) (offset + start) = offset + pauses.foldl (· + ·) start := by
  induction pauses generalizing start with
  | nil => rfl
  | cons pause rest ih => rw [List.foldl_cons, List.foldl_cons, Nat.add_assoc, ih]

@[simp]
theorem reading_watch (watch : Watch) (number : Nat) :
    (k.watch watch).reading number = k.time + watch.reading number := foldl_add ..

@[simp]
theorem stop_watch (watch : Watch) : (k.watch watch).stop = k.time + watch.stop := foldl_add ..

end Time

/-! ### Handlers -/

section Handlers

variable (c : Coordinator)

/-- What is announced has no number. -/
@[simp]
theorem published_effect (effects : List Effect) :
    published (effects.map k.effect) = published effects := by
  induction effects with
  | nil => rfl
  | cons effect rest ih =>
    rw [List.map_cons, published_cons, published_cons, ih]
    cases effect <;> rfl

@[simp]
theorem view_coordinator (first second : Span) :
    (k.coordinator c).view (k.time + first) (k.time + second) = c.view first second := by
  unfold view
  rw [coordinator_round]
  cases c.round with
  | none => rfl
  | some round => simp [Round.remaining, Round.accuracy]

/-- The timers given up are the shifted ones. -/
theorem timers_coordinator :
    ((k.coordinator c).countdown.toList ++ (k.coordinator c).followUp.toList ++
        (k.coordinator c).retry.toList).map Effect.cancel =
      ((c.countdown.toList ++ c.followUp.toList ++ c.retry.toList).map Effect.cancel).map
        k.effect := by
  unfold Shift.coordinator
  cases c.countdown <;> cases c.followUp <;> cases c.retry <;> rfl

theorem finish_coordinator : (k.coordinator c).finish = k.outcome c.finish := by
  have timers := k.timers_coordinator c
  unfold finish
  rw [coordinator_hasEnded, coordinator_phase, coordinator_round]
  cases c.hasEnded with
  | true => rfl
  | false =>
    cases c.phase with
    | running =>
      cases c.round with
      | none => rfl
      | some round =>
        simp only [cancelTimers, Option.map_some, timers, outcome, List.map_append]
        rfl
    | _ => rfl

theorem requestNext_coordinator (now : Span) :
    (k.coordinator c).requestNext (k.time + now) = k.outcome (c.requestNext now) := by
  unfold requestNext
  simp only [coordinator_phase, coordinator_loading, isActive_coordinator]
  split
  · rfl
  · split
    · rfl
    · split
      · rfl
      · rw [finish_coordinator]
        rfl

theorem fetched_coordinator (timings : Timings) (now : Span) (of : Nat) (puzzle : Option Puzzle) :
    (k.coordinator c).fetched timings (k.time + now) (k.generation + of) puzzle =
      (k.coordinator (c.fetched timings now of puzzle).1,
        (c.fetched timings now of puzzle).2.map k.effect) := by
  unfold fetched
  simp only [coordinator_phase, coordinator_generation, isActive_coordinator, ne_eq,
    Nat.add_left_cancel_iff]
  split
  · rfl
  · split
    · cases puzzle with
      | some puzzle =>
        unfold Shift.coordinator
        cases c.round <;> rfl
      | none => rfl
    · rfl

theorem submit_coordinator (timings : Timings) (before during : Span) (value : Int) :
    (k.coordinator c).submit timings (k.time + before) (k.time + during) value =
      k.outcome (c.submit timings before during value) := by
  unfold submit
  rw [coordinator_phase, coordinator_round, isActive_coordinator, finish_coordinator]
  cases decide (c.phase = .running) && c.isActive before with
  | false => rfl
  | true =>
    cases c.round with
    | none => rfl
    | some round =>
      simp only [Option.map_some, round_puzzle]
      cases round.puzzle with
      | none => rfl
      | some puzzle =>
        simp only [grade_round]
        unfold scheduleFollowUp Shift.coordinator
        cases c.followUp <;> rfl

theorem start_coordinator (timings : Timings) (watch : Watch) (player : Player) :
    (k.coordinator c).start timings (k.watch watch) player =
      k.outcome (c.start timings watch player) := by
  by_cases resting : c.phase = .idle ∨ c.phase = .ended
  · have shifted : (k.coordinator c).phase = .idle ∨ (k.coordinator c).phase = .ended := resting
    have opened : (k.coordinator c).opened timings player (k.time + watch.reading 0) =
        k.coordinator (c.opened timings player (watch.reading 0)) := rfl
    have timers : (k.coordinator c).cancelTimers.2 = c.cancelTimers.2.map k.effect :=
      k.timers_coordinator c
    rw [start_of_resting resting, start_of_resting shifted]
    simp only [reading_watch, opened, requestNext_coordinator, timers, outcome, view_coordinator,
      List.map_append]
    rfl
  · obtain ⟨refusal, refused⟩ := start_refused resting
    simp only [start, coordinator_phase, refused]
    rfl

/-- **A shifted coordinator answers as before and does the same, shifted.** -/
theorem handle_coordinator (timings : Timings) (watch : Watch) (command : Command) :
    (k.coordinator c).handle timings (k.watch watch) (k.command command) =
      k.outcome (c.handle timings watch command) := by
  cases command with
  | start player =>
    have started := k.start_coordinator c timings watch player
    simp only [Shift.command, handle, started]
    rfl
  | submit value =>
    simp only [Shift.command, handle, reading_watch, submit_coordinator]
    rfl
  | next =>
    simp only [Shift.command, handle, reading_watch, requestNext_coordinator]
    rfl
  | finish =>
    simp only [Shift.command, handle, finish_coordinator]
    rfl
  | look =>
    simp only [Shift.command, handle, reading_watch, view_coordinator]
    rfl
  | fetched of puzzle =>
    simp only [Shift.command, handle, reading_watch, fetched_coordinator]
    rfl
  | retryDue of =>
    have asked := k.requestNext_coordinator { c with retry := none, loading := false }
      (watch.reading 0)
    simp only [Shift.command, handle, reading_watch, coordinator_generation,
      Nat.add_left_cancel_iff]
    split
    · exact congrArg (fun result => (Reply.silent, result.2)) asked
    · rfl
  | followUpDue of sequence =>
    have asked := k.requestNext_coordinator { c with followUp := none } (watch.reading 0)
    simp only [Shift.command, handle, reading_watch, coordinator_generation,
      coordinator_followUpSequence, Nat.add_left_cancel_iff]
    split
    · exact congrArg (fun result => (Reply.silent, result.2)) asked
    · rfl
  | tick of remaining =>
    simp only [Shift.command, handle, coordinator_generation, coordinator_phase,
      Nat.add_left_cancel_iff]
    split <;> rfl
  | expired of =>
    simp only [Shift.command, handle, coordinator_generation, finish_coordinator,
      Nat.add_left_cancel_iff]
    split <;> rfl

end Handlers

end Shift
end TimedQuiz.Coordinator
