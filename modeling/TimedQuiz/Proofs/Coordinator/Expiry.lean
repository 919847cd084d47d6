/-
**Nothing counts once a round is over.**

The time of a round may be up long before anyone ends it: nothing happens at that instant, and the
round goes on running until a command finds it expired. From that instant on the round is over all
the same, just as it is once it has been ended.

* `counts_of_run`: a puzzle, an answer or a score is announced only while a round is on whose time
  is not up; and while the round is over, no command moves a counter or the puzzle on display, until
  another round is started.

The clock stands still while one command is handled. Otherwise an answer could pass in time and be
counted too late.
-/

import TimedQuiz.Proofs.Coordinator.Standing
import TimedQuiz.Proofs.Timeline

namespace TimedQuiz

/-! ### The time of a round -/

namespace Round

variable {round : Round} {now : Span}

/-- An active round has time left. -/
theorem lt_of_isActive (active : round.isActive now = true) :
    now < round.clock.startedAt + round.clock.duration := by
  have left := not_isExpired_of_isActive active
  rw [Clock.isExpired, beq_eq_false_iff_ne, Clock.remaining, Clock.elapsed] at left
  unfold Span at *
  omega

/-- A round whose time is up is not active. -/
theorem inactive_of_le (late : round.clock.startedAt + round.clock.duration ≤ now) :
    round.isActive now = false := by
  have used : round.clock.duration - (now - round.clock.startedAt) = 0 := by
    unfold Span at *
    omega
  rw [isActive, Clock.isExpired, Clock.remaining, Clock.elapsed, used]
  exact Bool.and_false _

/-- Grading does not touch the clock. -/
theorem grade_clock (round : Round) (now : Span) (value : Int) :
    (round.grade now value).2.clock = round.clock := by
  unfold grade
  split <;> rfl

end Round

namespace Coordinator

open Timeline (opened?)

variable {timings : Timings} {now : Span} {c next : Coordinator} {line : List (Span × Event)}

/-! ### The log of a run with its times -/

theorem Run.length_exchanges (timings : Timings) (inputs : List (Watch × Command)) :
    (Run.of timings inputs).exchanges.length = inputs.length := by
  induction inputs using List.reverseRecOn with
  | nil => rfl
  | append_singleton inputs input ih =>
    rw [Run.of_concat, Run.next, List.length_append, List.length_append, ih]
    rfl

/-- What a run announces, and when, if its commands are handled at some instants. -/
def announced (timings : Timings) (moments : List (Span × Command)) : List (Span × Event) :=
  (moments.zip (Run.of timings (atInstants moments)).exchanges).flatMap fun handled =>
    handled.2.events.map (handled.1.1, ·)

theorem atInstants_concat (moments : List (Span × Command)) (moment : Span × Command) :
    atInstants (moments ++ [moment]) = atInstants moments ++ [(.still moment.1, moment.2)] :=
  List.map_append

theorem announced_concat (timings : Timings) (moments : List (Span × Command))
    (moment : Span × Command) :
    announced timings (moments ++ [moment]) =
      announced timings moments ++
        (published ((Run.of timings (atInstants moments)).coordinator.handle timings
          (.still moment.1) moment.2).2.2).map (moment.1, ·) := by
  have lengths : moments.length = (Run.of timings (atInstants moments)).exchanges.length := by
    rw [Run.length_exchanges, atInstants, List.length_map]
  rw [announced, atInstants_concat, Run.of_concat, Run.next, List.zip_append lengths,
    List.flatMap_append]
  exact congrArg (_ ++ ·) (List.flatMap_singleton ..)

/-! ### What counts is announced in time -/

/-- What counts comes while a round is on whose time is not up. -/
def InTime (timings : Timings) (before : List (Span × Event)) (entry : Span × Event) : Prop :=
  entry.2.counts = true →
    ∃ start, opened? before = some start ∧ entry.1 < start + timings.round

/-- The log tells when the running round was opened, and everything in it came in time. -/
structure Clocked (timings : Timings) (c : Coordinator) (line : List (Span × Event)) : Prop where
  resting : c.phase ≠ .running → opened? line = none
  running : ∀ round, c.phase = .running → c.round = some round →
    opened? line = some round.clock.startedAt ∧ round.clock.duration = timings.round
  inTime : EachAfter (InTime timings) line

theorem clocked_initial : Clocked timings {} [] where
  resting _ := rfl
  running _ impossible := by cases impossible
  inTime := .nil

namespace Clocked

/-- Nothing is announced, and the phase and the clock of the round stay. -/
theorem congr (clocked : Clocked timings c line) (phase : next.phase = c.phase)
    (clock : next.round.map Round.clock = c.round.map Round.clock) :
    Clocked timings next line where
  resting := by rw [phase]; exact clocked.resting
  running round running present := by
    rw [phase] at running
    rw [present, Option.map_some] at clock
    obtain ⟨before, found, same⟩ := Option.map_eq_some_iff.mp clock.symm
    rw [← same]
    exact clocked.running before running found
  inTime := clocked.inTime

/-- A move that announces nothing and leaves the phase and the clock alone. -/
theorem silent (clocked : Clocked timings c line) {effects : List Effect}
    (quiet : published effects = []) (phase : next.phase = c.phase)
    (clock : next.round.map Round.clock = c.round.map Round.clock) :
    Clocked timings next (line ++ (published effects).map (now, ·)) := by
  rw [quiet, List.map_nil, List.append_nil]
  exact clocked.congr phase clock

/-- Something that counts is announced while the round is active. -/
theorem counting (clocked : Clocked timings c line) (running : c.phase = .running) {round : Round}
    (present : c.round = some round) (active : round.isActive now = true) (event : Event)
    (counts : event.counts = true) : Clocked timings c (line ++ [(now, event)]) := by
  obtain ⟨opened, _⟩ := Timeline.concat_of_counts line now counts
  obtain ⟨start, budget⟩ := clocked.running round running present
  have early : now < round.clock.startedAt + timings.round := budget ▸ Round.lt_of_isActive active
  exact
    { resting := fun resting => absurd running resting
      running := by rw [opened]; exact clocked.running
      inTime := clocked.inTime.concat fun _ => ⟨_, start, early⟩ }

end Clocked

/-- **Every move announces what counts in time**, if the clock stands still. -/
theorem Move.clocked {arrival : Bool} {effects : List Effect}
    (move : Move timings (.still now) arrival c effects next) (clocked : Clocked timings c line) :
    Clocked timings next (line ++ (published effects).map (now, ·)) := by
  cases move with
  | opening player resting =>
    rw [published_append, published_cancelTimers, Watch.reading_still]
    exact
      { resting := fun impossible => absurd rfl impossible
        running := fun round _ present => by
          obtain rfl := Option.some.inj present
          exact ⟨Timeline.opened?_concat .., rfl⟩
        inTime := clocked.inTime.concat fun impossible => by cases impossible }
  | closing running present fresh =>
    rw [published_append, published_cancelTimers]
    exact
      { resting := fun _ => Timeline.opened?_concat ..
        running := fun _ impossible => by cases impossible
        inTime := clocked.inTime.concat fun impossible => by cases impossible }
  | @grading _ round puzzle value running present shown active =>
    rw [Watch.reading_still] at active
    have graded := clocked.counting running present active
      (.answerGraded value (round.grade now value).1 (round.grade now value).2.player) rfl
    have told := graded.counting running present active
      (.scoreChanged (round.grade now value).2.player) rfl
    rw [List.append_assoc] at told
    refine told.congr rfl ?_
    rw [Watch.reading_still, present, Option.map_some, Option.map_some, Round.grade_clock]
  | @displaying _ round puzzle running present active =>
    rw [Watch.reading_still] at active
    refine (clocked.counting running present active (.puzzleLoaded puzzle) rfl).congr rfl ?_
    rw [present]
    rfl
  | ticking remaining running =>
    refine
      { resting := fun resting => absurd running resting
        running := fun round _ present => ?_
        inTime := clocked.inTime.concat fun impossible => by cases impossible }
    obtain ⟨opened, budget⟩ := clocked.running round running present
    exact ⟨(Timeline.opened?_concat ..).trans opened, budget⟩
  | scheduling running => exact clocked.silent (published_scheduleFollowUp c timings) rfl rfl
  | fetching number running free active => exact clocked.silent rfl rfl rfl
  | following => exact clocked.silent rfl rfl rfl
  | postponing running active => exact clocked.silent rfl rfl rfl
  | discarding late => exact clocked.silent rfl rfl rfl
  | resuming => exact clocked.silent rfl rfl rfl

theorem handle_clocked (command : Command) (clocked : Clocked timings c line) :
    Clocked timings (c.handle timings (.still now) command).2.1
      (line ++ (published (c.handle timings (.still now) command).2.2).map (now, ·)) := by
  refine handle_holds
    (fun next done => Clocked timings next (line ++ (published done).map (now, ·)))
    ?_ command ?_
  · intro arrival c next done effects move before
    rw [published_append, List.map_append, ← List.append_assoc]
    exact move.clocked before
  · rwa [published_nil, List.map_nil, List.append_nil]

theorem clocked_of_run (timings : Timings) (moments : List (Span × Command)) :
    Clocked timings (Run.of timings (atInstants moments)).coordinator
      (announced timings moments) := by
  induction moments using List.reverseRecOn with
  | nil => exact clocked_initial
  | append_singleton moments moment ih =>
    rw [announced_concat, atInstants_concat, Run.of_concat]
    exact handle_clocked moment.2 ih

/-! ### A round that is over -/

/-- What is counted: score, attempts, the player with all counters, and the puzzle on display. -/
def tally (c : Coordinator) : Option (Nat × Nat × Player × Option Puzzle) :=
  c.round.map fun round => (round.score, round.attempts, round.player, round.puzzle)

/-- No round is running, or the time of the running one is up. -/
def IsOver (c : Coordinator) (now : Span) : Prop := c.phase = .running → c.isActive now = false

/-- What is over stays over. -/
theorem IsOver.later {earlier : Span} (isOver : IsOver c earlier) (order : earlier ≤ now) :
    IsOver c now := by
  intro running
  have inactive := isOver running
  unfold isActive at inactive ⊢
  cases present : c.round with
  | none => rfl
  | some round =>
    rw [present, Option.any_some, Round.isActive, Bool.and_eq_false_iff,
      Bool.not_eq_false'] at inactive
    rw [Option.any_some, Round.isActive, Bool.and_eq_false_iff, Bool.not_eq_false']
    exact inactive.imp_right (Clock.isExpired_mono order)

/-- A round that the log tells to be over is over. -/
theorem Clocked.isOver (clocked : Clocked timings c line)
    (late : ∀ start, opened? line = some start → start + timings.round ≤ now) : IsOver c now := by
  intro running
  unfold isActive
  cases present : c.round with
  | none => rfl
  | some round =>
    obtain ⟨opened, budget⟩ := clocked.running round running present
    rw [Option.any_some]
    exact Round.inactive_of_le (budget ▸ late _ opened)

/-- **Once the round is over, every move but an opening keeps it over and the tally as it is.** -/
theorem Move.isOver {limit : Span} {arrival : Bool} {effects : List Effect}
    (move : Move timings (.still now) arrival c effects next) (isOver : IsOver c limit)
    (order : limit ≤ now) (noStart : ∀ event ∈ published effects, event.starter? = none) :
    IsOver next limit ∧ next.tally = c.tally := by
  have idle (running : c.phase = .running) : c.isActive now ≠ true :=
    ne_true_of_eq_false (isOver.later order running)
  have idleRound {round : Round} (running : c.phase = .running) (present : c.round = some round) :
      round.isActive now ≠ true := by
    have found := idle running
    rwa [isActive, present, Option.any_some] at found
  cases move with
  | opening player resting =>
    rw [published_append, published_cancelTimers] at noStart
    cases noStart _ List.mem_cons_self
  | closing running present fresh =>
    refine ⟨fun impossible => Phase.noConfusion impossible, ?_⟩
    rw [tally, tally, present]
    rfl
  | fetching number running free active =>
    rw [Watch.reading_still] at active
    exact absurd active (idle running)
  | grading value running present shown active =>
    rw [Watch.reading_still] at active
    exact absurd active (idleRound running present)
  | displaying puzzle running present active =>
    rw [Watch.reading_still] at active
    exact absurd active (idleRound running present)
  | postponing running active =>
    rw [Watch.reading_still] at active
    exact absurd active (idle running)
  | scheduling running => exact ⟨isOver, rfl⟩
  | following => exact ⟨isOver, rfl⟩
  | ticking remaining running => exact ⟨isOver, rfl⟩
  | discarding late => exact ⟨isOver, rfl⟩
  | resuming => exact ⟨isOver, rfl⟩

theorem handle_isOver {limit : Span} (command : Command) (isOver : IsOver c limit)
    (order : limit ≤ now)
    (noStart : ∀ event ∈ published (c.handle timings (.still now) command).2.2,
      event.starter? = none) :
    IsOver (c.handle timings (.still now) command).2.1 limit ∧
      (c.handle timings (.still now) command).2.1.tally = c.tally := by
  refine handle_holds (fun next done => (∀ event ∈ published done, event.starter? = none) →
    IsOver next limit ∧ next.tally = c.tally) ?_ command (fun _ => ⟨isOver, rfl⟩) noStart
  intro arrival middle next done effects move before noStart
  rw [published_append] at noStart
  obtain ⟨earlier, same⟩ := before fun event member => noStart event (List.mem_append_left _ member)
  obtain ⟨later, last⟩ :=
    move.isOver earlier order fun event member => noStart event (List.mem_append_right _ member)
  exact ⟨later, last.trans same⟩

/-- While the round is over and no other is started, a run keeps the tally as it is. -/
theorem tally_of_over (timings : Timings) {limit : Span} (earlier later : List (Span × Command))
    (isOver : IsOver (Run.of timings (atInstants earlier)).coordinator limit)
    (order : ∀ moment ∈ later, limit ≤ moment.1) :
    ∃ more, announced timings (earlier ++ later) = announced timings earlier ++ more ∧
      ((∀ entry ∈ more, entry.2.starter? = none) →
        IsOver (Run.of timings (atInstants (earlier ++ later))).coordinator limit ∧
          (Run.of timings (atInstants (earlier ++ later))).coordinator.tally =
            (Run.of timings (atInstants earlier)).coordinator.tally) := by
  induction later using List.reverseRecOn with
  | nil =>
    rw [List.append_nil]
    exact ⟨[], (List.append_nil _).symm, fun _ => ⟨isOver, rfl⟩⟩
  | append_singleton later moment ih =>
    obtain ⟨more, grown, kept⟩ :=
      ih fun moment member => order moment (List.mem_append_left _ member)
    rw [← List.append_assoc, announced_concat, atInstants_concat, Run.of_concat, grown,
      List.append_assoc]
    refine ⟨_, rfl, fun noStart => ?_⟩
    obtain ⟨middle, same⟩ := kept fun entry member => noStart entry (List.mem_append_left _ member)
    let former := (Run.of timings (atInstants (earlier ++ later))).coordinator
    have quiet : ∀ event ∈ published (former.handle timings (.still moment.1) moment.2).2.2,
        event.starter? = none := fun event member =>
      noStart (moment.1, event)
        (List.mem_append_right _ (List.mem_map.mpr ⟨event, member, rfl⟩))
    obtain ⟨after, last⟩ := handle_isOver moment.2 middle
      (order moment (List.mem_append_right _ List.mem_cons_self)) quiet
    exact ⟨after, last.trans same⟩

/-- A view shows the tally. -/
theorem snapshot_of_tally (same : next.tally = c.tally) (first second : Span) :
    let was := c.snapshot first
    let now := next.snapshot second
    now.score = was.score ∧ now.attempts = was.attempts ∧ now.player = was.player ∧
      now.puzzle = was.puzzle := by
  simp only [snapshot, view_score, view_attempts, view_player, view_puzzle]
  unfold tally at same
  cases before : c.round with
  | none =>
    rw [before, Option.map_none, Option.map_eq_none_iff] at same
    rw [same]
    exact ⟨rfl, rfl, rfl, rfl⟩
  | some round =>
    rw [before, Option.map_some, Option.map_eq_some_iff] at same
    obtain ⟨after, found, parts⟩ := same
    simp only [Prod.mk.injEq] at parts
    obtain ⟨score, attempts, player, puzzle⟩ := parts
    rw [found]
    exact ⟨score, attempts, congrArg some player, puzzle⟩

/-! ### The main result -/

/-- **Nothing counts once a round is over.** Whatever counts is announced while a round is on,
before its end and at a time when its time is not up. From an instant on at which the time of the
round is up, or at which no round is on, no command changes the score, the attempts, the player with
all counters or the puzzle on display, until another round is started. -/
theorem counts_of_run (timings : Timings) (moments : List (Span × Command)) :
    EachAfter (InTime timings) (announced timings moments) ∧
      ∀ earlier later more limit, moments = earlier ++ later →
        announced timings moments = announced timings earlier ++ more →
        (∀ start, opened? (announced timings earlier) = some start →
          start + timings.round ≤ limit) →
        (∀ moment ∈ later, limit ≤ moment.1) →
        (∀ entry ∈ more, entry.2.starter? = none) →
        ∀ first second,
          let was := (Run.of timings (atInstants earlier)).coordinator.snapshot first
          let now := (Run.of timings (atInstants moments)).coordinator.snapshot second
          now.score = was.score ∧ now.attempts = was.attempts ∧ now.player = was.player ∧
            now.puzzle = was.puzzle := by
  refine ⟨(clocked_of_run timings moments).inTime, ?_⟩
  rintro earlier later more limit rfl grown late order noStart first second
  have isOver := (clocked_of_run timings earlier).isOver late
  obtain ⟨news, same, kept⟩ := tally_of_over timings earlier later isOver order
  obtain rfl : news = more := List.append_cancel_left (same.symm.trans grown)
  exact snapshot_of_tally (kept noStart).2 first second

/-- A round of thirty seconds in which an answer is counted. When its time is up, the round is still
running, and another answer is not counted. -/
theorem counts_of_run_late :
    let earlier : List (Span × Command) :=
      [(0, .start (.fresh "ann")), (1, .fetched 1 (some { image := [], solution := 4 })),
        (2, .submit 4)]
    let later : List (Span × Command) :=
      [(30000000000, .look), (30000000001, .submit 4)]
    let was := (Run.of .standard (atInstants earlier)).coordinator.snapshot 2
    let now := (Run.of .standard (atInstants (earlier ++ later))).coordinator.snapshot 30000000001
    was.phase = .running ∧ was.score = 1 ∧ now.score = was.score ∧ now.attempts = was.attempts ∧
      now.player = was.player ∧ now.puzzle = was.puzzle := by
  intro earlier later was now
  refine ⟨rfl, rfl, ?_⟩
  refine (counts_of_run .standard (earlier ++ later)).2 earlier later
    ((announced .standard (earlier ++ later)).drop 4) 30000000000 rfl ?_ ?_ ?_ ?_ 2 30000000001
  · rfl
  · decide
  · decide
  · decide

end Coordinator
end TimedQuiz
