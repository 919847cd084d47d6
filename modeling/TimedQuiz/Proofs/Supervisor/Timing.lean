/-
**When the supervisor does what.**

A wait of the supervisor depends on what has gone wrong before it, and each of the two sorts of
waits doubles on its own.

* `World.turn`: the supervisor of a script, every time it goes on. `World.Makes` and `World.Loses`
  say what it does then, by what is noted of it.
* `World.Paced`: with a store at hand, the wait that a loss would be followed by is the first one.
* `delay_turn`: without a store, the waits double up to the longest.
* `timing_of_run`: so every call of a run comes at a time that can be told from what was before.
-/

import Mathlib.Logic.Function.Iterate
import Mathlib.Tactic.IntervalCases
import TimedQuiz.Proofs.Supervisor

namespace TimedQuiz.Supervisor

/-! ### Waits -/

/-- A number of whole seconds. -/
def seconds (number : Nat) : Span := Span.ofSeconds number 0

theorem add_seconds (time : Span) (first later : Nat) :
    time + seconds first + seconds later = time + seconds (first + later) := by
  simp only [seconds, Span.ofSeconds]
  unfold Span at *
  omega

/-- The wait with a number in a period without a store; the first one has the number zero. -/
def backoff (number : Nat) : Span := seconds (min (2 ^ number) 10)

/-- The wait with the number zero is the first one after a failure. -/
theorem span_initial : Delay.initial.span = backoff 0 := rfl

theorem span_doubled {delay : Delay} {number : Nat} (wait : delay.span = backoff number) :
    delay.doubled.span = backoff (number + 1) := by
  have doubled : delay.doubled.span = min (delay.span * 2) (Span.ofMillis 10000) := rfl
  rw [doubled, wait]
  simp only [backoff, seconds, Span.ofSeconds, Span.ofMillis, Nat.pow_succ]
  generalize 2 ^ number = twofold
  unfold Span
  omega

namespace World

variable {world : World} {call : Call} {success : Bool} {time : Span}

/-! ### What the supervisor does when it goes on -/

/-- When the supervisor goes on, at the given time, it makes a call and nothing else is noted. -/
def Makes (world : World) (time : Span) (call : Call) (success : Bool) : Prop :=
  world.wakesAt = time ∧ world.wake.calls = world.calls ++ [(time, call, success)]

/-- When the supervisor goes on, at the given time, it takes the store away and makes no call. -/
def Loses (world : World) (time : Span) : Prop :=
  world.wakesAt = time ∧ world.installed = true ∧ world.wake.installed = false ∧
    world.wake.calls = world.calls

instance (world : World) (time : Span) (call : Call) (success : Bool) :
    Decidable (world.Makes time call success) :=
  inferInstanceAs (Decidable (_ ∧ _))

instance (world : World) (time : Span) : Decidable (world.Loses time) :=
  inferInstanceAs (Decidable (_ ∧ _))

/-- What is called is what the stage says. -/
theorem makes_iff : world.Makes time call success ↔
    world.wakesAt = time ∧ world.supervisor.stage.call? = some call ∧
      world.makeCall.1 = success := by
  refine and_congr_right fun now => ?_
  rw [calls_wake, List.append_cancel_left_eq, now]
  cases world.supervisor.stage.call? <;> simp

/-- A stage with a call makes it. -/
theorem makes_of_stage (next : world.supervisor.stage.call? = some call)
    (now : world.wakesAt = time) : ∃ success, world.Makes time call success :=
  ⟨world.makeCall.1, makes_iff.mpr ⟨now, next, rfl⟩⟩

theorem stage_of_connect (makes : world.Makes time .connect success) :
    world.supervisor.stage = .connect := by
  have next := (makes_iff.mp makes).2.1
  cases stage : world.supervisor.stage <;> rw [stage] at next <;> first | rfl | cases next

theorem stage_of_health (makes : world.Makes time .health success) :
    world.supervisor.stage = .health := by
  have next := (makes_iff.mp makes).2.1
  cases stage : world.supervisor.stage <;> rw [stage] at next <;> first | rfl | cases next

/-- Where the supervisor stands after a call, and when it goes on. -/
theorem wake_of_makes (makes : world.Makes time call success) :
    world.wake.supervisor = (world.supervisor.step success).1 ∧
      world.wake.wakesAt = time + (world.supervisor.step success).2.2 := by
  obtain ⟨now, _, outcome⟩ := makes_iff.mp makes
  rw [supervisor_wake, wakesAt_wake, outcome, now]
  exact ⟨rfl, rfl⟩

/-! ### With a store -/

/-- A connection that has been made is looked at at once. -/
theorem health_of_connect (makes : world.Makes time .connect true) :
    ∃ healthy, world.wake.Makes time .health healthy := by
  obtain ⟨supervisor, later⟩ := wake_of_makes makes
  simp only [Supervisor.step, stage_of_connect makes] at supervisor later
  exact makes_of_stage (by rw [supervisor]; rfl) later

/-- A healthy connection is looked at again after a while. -/
theorem health_of_health (makes : world.Makes time .health true) :
    ∃ healthy, world.wake.Makes (time + healthInterval) .health healthy := by
  obtain ⟨supervisor, later⟩ := wake_of_makes makes
  simp only [Supervisor.step, stage_of_health makes] at supervisor later
  exact makes_of_stage (by rw [supervisor]; rfl) later

/-! ### Attempts to revive a connection -/

/-- The next attempt to revive the connection has a number, and is made so many seconds after the
health check that failed. -/
structure Reviving (world : World) (time : Span) (attempt : Nat) : Prop where
  now : world.wakesAt = time + seconds (2 ^ attempt - 1)
  stage : ∃ delay, world.supervisor.stage = .reconnect attempt delay ∧
    delay.span = seconds (2 ^ attempt)

/-- The first attempt is made when a health check has failed. -/
theorem reviving_of_health (makes : world.Makes time .health false) :
    world.wake.Reviving time 0 := by
  obtain ⟨supervisor, later⟩ := wake_of_makes makes
  simp only [Supervisor.step, stage_of_health makes] at supervisor later
  exact ⟨later, .initial, by rw [supervisor], rfl⟩

namespace Reviving

variable {attempt : Nat}

/-- The attempt is made. -/
theorem makes (reviving : world.Reviving time attempt) :
    ∃ success, world.Makes (time + seconds (2 ^ attempt - 1)) .reconnect success := by
  obtain ⟨delay, stage, _⟩ := reviving.stage
  exact makes_of_stage (by rw [stage]; rfl) reviving.now

/-- An attempt that succeeds is followed by a health check after a while. -/
theorem succeeded {now : Span} (reviving : world.Reviving time attempt)
    (makes : world.Makes now .reconnect true) :
    ∃ healthy, world.wake.Makes (now + healthInterval) .health healthy := by
  obtain ⟨delay, stage, _⟩ := reviving.stage
  obtain ⟨supervisor, later⟩ := wake_of_makes makes
  simp only [Supervisor.step, stage] at supervisor later
  exact makes_of_stage (by rw [supervisor]; rfl) later

/-- After an attempt that fails, the supervisor waits as long again as it has taken so far, and a
second more. -/
theorem failed {now : Span} (reviving : world.Reviving time attempt)
    (makes : world.Makes now .reconnect false) :
    world.wake.wakesAt = time + seconds (2 ^ (attempt + 1) - 1) ∧
      ∃ delay, world.wake.supervisor = ⟨afterAttempt attempt delay, world.supervisor.delay⟩ ∧
        delay.span = seconds (2 ^ attempt) := by
  obtain ⟨delay, stage, wait⟩ := reviving.stage
  obtain ⟨supervisor, later⟩ := wake_of_makes makes
  simp only [Supervisor.step, stage] at supervisor later
  refine ⟨?_, delay, supervisor, wait⟩
  -- The wait after the attempt is as long as all before it and one second more.
  have present := reviving.now.symm.trans makes.1
  have some := Nat.two_pow_pos attempt
  simp only [seconds, Span.ofSeconds, Nat.pow_succ] at present wait ⊢
  unfold Span at *
  omega

/-- As long as there are attempts left, the next one is made then. -/
theorem next {now : Span} (reviving : world.Reviving time attempt)
    (more : attempt + 1 < reconnectLimit) (makes : world.Makes now .reconnect false) :
    world.wake.Reviving time (attempt + 1) := by
  obtain ⟨later, delay, supervisor, wait⟩ := reviving.failed makes
  refine ⟨later, delay.doubled, ?_, ?_⟩
  · rw [supervisor, afterAttempt, if_pos more]
  · have short : attempt < 2 := Nat.lt_of_succ_lt_succ more
    have doubled : delay.doubled.span = min (delay.span * 2) (Span.ofMillis 10000) := rfl
    rw [doubled, wait]
    interval_cases attempt <;> rfl

end Reviving

/-! ### Without a store -/

/-- Things stand as the stage says, and with a store at hand a loss would be followed by the first
wait. -/
structure Paced (world : World) : Prop where
  truthful : world.Truthful
  fresh : world.installed = true → world.supervisor.delay = .initial

namespace Paced

theorem initial (connections : List (Option Connection)) : Paced { connections } where
  truthful := .initial connections
  fresh impossible := by cases impossible

/-- **Whenever the supervisor goes on, the wait after a loss stays the first one.** -/
theorem wake (paced : Paced world) : Paced world.wake where
  truthful := paced.truthful.wake
  fresh present := by
    -- Whether there is a store is told by the stage, so only the stage and its outcome count.
    rw [paced.truthful.wake.installed] at present
    have fresh := paced.fresh
    rw [paced.truthful.installed] at fresh
    rw [supervisor_wake] at present ⊢
    generalize world.supervisor = supervisor at present fresh ⊢
    generalize world.makeCall.1 = success at present ⊢
    obtain ⟨stage, delay⟩ := supervisor
    cases stage with
    | connect =>
      cases success with
      | true => rfl
      | false => cases present
    | health => cases success <;> exact fresh rfl
    | reconnect attempt wait => cases success <;> exact fresh rfl
    | giveUp => cases present

/-- When there is no store after the supervisor has gone on, it has not been able to connect or has
given up the connection. Either way it waits, and then attempts to connect. -/
theorem setback (paced : Paced world) (missing : world.wake.installed = false) :
    world.wake.wakesAt = world.wakesAt + world.supervisor.delay.span ∧
      world.wake.supervisor = ⟨.connect, world.supervisor.delay.doubled⟩ := by
  rw [paced.truthful.wake.installed, supervisor_wake] at missing
  rw [wakesAt_wake, supervisor_wake]
  generalize world.makeCall.1 = success at missing ⊢
  generalize world.supervisor = supervisor at missing ⊢
  obtain ⟨stage, delay⟩ := supervisor
  cases stage with
  | connect =>
    cases success with
    | true => cases missing
    | false => exact ⟨rfl, rfl⟩
  | health => cases success <;> cases missing
  | reconnect attempt wait =>
    cases success with
    | true => cases missing
    | false => exact absurd ((afterAttempt_stands attempt wait).1.symm.trans missing) (by decide)
  | giveUp => exact ⟨rfl, rfl⟩

end Paced

/-! ### Runs -/

/-- The supervisor of a script, before it goes on for the time with a number, counted from zero. -/
def turn (connections : List (Option Connection)) (number : Nat) : World :=
  wake^[number] { connections }

variable (connections : List (Option Connection))

theorem turn_succ (number : Nat) :
    turn connections (number + 1) = (turn connections number).wake :=
  Function.iterate_succ_apply' wake number _

theorem paced_turn (number : Nat) : Paced (turn connections number) := by
  induction number with
  | zero => exact .initial connections
  | succ number ih =>
    rw [turn_succ]
    exact ih.wake

/-- Letting the supervisor go on until it waits for an instant after a target is going on so many
times, each no later than the target. -/
theorem runUntil_eq_iterate (target : Span) (world : World) :
    ∃ number, world.runUntil target = wake^[number] world ∧
      target < (wake^[number] world).wakesAt ∧
      ∀ earlier < number, (wake^[earlier] world).wakesAt ≤ target := by
  induction world using runUntil.induct target with
  | case1 world due _ ih =>
    obtain ⟨number, same, past, early⟩ := ih
    refine ⟨number + 1, ?_, past, fun earlier before => ?_⟩
    · rw [runUntil, dif_pos due, same, Function.iterate_succ_apply]
    · cases earlier with
      | zero => exact due
      | succ earlier => exact early earlier (Nat.lt_of_succ_lt_succ before)
  | case2 world waiting =>
    refine ⟨0, ?_, Nat.lt_of_not_le waiting, fun _ impossible => absurd impossible ?_⟩
    case refine_2 => exact Nat.not_lt_zero _
    rw [runUntil, dif_neg waiting]
    rfl

/-- As long as there is no store, the waits double: the wait that comes next has as its number how
many there have been since the start or the loss of the store. -/
theorem delay_turn {first : Nat}
    (begins : first = 0 ∨ (turn connections first).installed = true) {number : Nat}
    (missing : ∀ later < number, (turn connections (first + later + 1)).installed = false) :
    (turn connections (first + number)).supervisor.delay.span = backoff number := by
  induction number with
  | zero =>
    rcases begins with rfl | present
    · exact span_initial
    · exact (congrArg Delay.span ((paced_turn connections first).fresh present)).trans span_initial
  | succ number ih =>
    have wait := ih fun later before => missing later (Nat.lt_succ_of_lt before)
    have gone := missing number (Nat.lt_succ_self number)
    rw [← Nat.add_assoc]
    rw [turn_succ] at gone ⊢
    rw [((paced_turn connections _).setback gone).2]
    exact span_doubled wait

/-- After a health check that failed, every attempt comes after as many failed ones as it says. -/
theorem reviving_turn {number : Nat} {time : Span}
    (failed : (turn connections number).Makes time .health false) {attempt : Nat}
    (limit : attempt < reconnectLimit)
    (before : ∀ earlier < attempt,
      ∃ now, (turn connections (number + 1 + earlier)).Makes now .reconnect false) :
    (turn connections (number + 1 + attempt)).Reviving time attempt := by
  induction attempt with
  | zero =>
    rw [Nat.add_zero, turn_succ]
    exact reviving_of_health failed
  | succ attempt ih =>
    have reviving := ih (Nat.lt_of_succ_lt limit) fun earlier sooner =>
      before earlier (Nat.lt_succ_of_lt sooner)
    obtain ⟨now, makes⟩ := before attempt (Nat.lt_succ_self attempt)
    rw [← Nat.add_assoc, turn_succ]
    exact reviving.next limit makes

/-- After the last attempt has failed, the store is taken away, and then the supervisor attempts to
connect. -/
theorem loses_turn {number : Nat} {time : Span}
    (failed : (turn connections number).Makes time .health false)
    (before : ∀ earlier < 3,
      ∃ now, (turn connections (number + 1 + earlier)).Makes now .reconnect false) :
    (turn connections (number + 4)).Loses (time + seconds 7) ∧
      ∃ success, (turn connections (number + 5)).Makes (time + seconds 8) .connect success := by
  have reviving : (turn connections (number + 1 + 2)).Reviving time 2 :=
    reviving_turn connections failed (by decide) fun earlier sooner =>
      before earlier (Nat.lt_succ_of_lt sooner)
  obtain ⟨now, makes⟩ := before 2 (by decide)
  obtain ⟨later, delay, supervisor, _⟩ := reviving.failed makes
  rw [← turn_succ] at later supervisor
  have paced := paced_turn connections (number + 4)
  have stage : (turn connections (number + 4)).supervisor.stage = .giveUp :=
    congrArg Supervisor.stage supervisor
  have present : (turn connections (number + 4)).installed = true := by
    rw [paced.truthful.installed, stage]
    rfl
  have gone : (turn connections (number + 4)).wake.installed = false := by
    rw [paced.truthful.wake.installed, supervisor_wake]
    simp only [Supervisor.step, stage]
    rfl
  have silent : (turn connections (number + 4)).wake.calls =
      (turn connections (number + 4)).calls := by
    rw [calls_wake, stage]
    exact List.append_nil _
  refine ⟨⟨later, present, gone, silent⟩, ?_⟩
  obtain ⟨next, lost⟩ := paced.setback gone
  rw [turn_succ]
  refine makes_of_stage (by rw [lost]; rfl) ?_
  have wait : (turn connections (number + 4)).supervisor.delay.span = seconds 1 :=
    congrArg Delay.span (paced.fresh present)
  rw [next, later, wait]
  exact add_seconds time 7 1

end World

/-! ### The main result -/

/-- **The timing of the supervisor.** Whatever the attempts to connect, the health checks and the
attempts to revive a connection bring, the supervisor attempts to connect at once, and then:

* while there is no store, be it since the start or since a loss, the waits before the next attempts
  to connect take 1, 2, 4, 8 seconds, and from then on 10;
* a connection that has been made is looked at at once, and one that is healthy again after five
  seconds;
* after a health check that failed, up to three attempts to revive the connection are made: at once,
  a second and three seconds after the check. When one succeeds, the next look follows five seconds
  later. When all fail, the store is taken away seven seconds after the check, and another second
  later the supervisor attempts to connect.

This is all the supervisor does: up to any instant it goes on so many times, and then waits for a
later one. -/
theorem timing_of_run (connections : List (Option Connection)) :
    let turn := World.turn connections
    (∃ success, (turn 0).Makes 0 .connect success) ∧
      (∀ first number, (first = 0 ∨ (turn first).installed = true) →
        (∀ later ≤ number, (turn (first + later + 1)).installed = false) →
        ∃ success, (turn (first + number + 1)).Makes
          ((turn (first + number)).wakesAt + seconds (min (2 ^ number) 10)) .connect success) ∧
      (∀ number time, (turn number).Makes time .connect true →
        ∃ healthy, (turn (number + 1)).Makes time .health healthy) ∧
      (∀ number time, (turn number).Makes time .health true →
        ∃ healthy, (turn (number + 1)).Makes (time + seconds 5) .health healthy) ∧
      (∀ number time, (turn number).Makes time .health false →
        (∀ attempt < 3,
          (∀ earlier < attempt, ∃ now,
            (turn (number + 1 + earlier)).Makes now .reconnect false) →
          ∃ success,
            (turn (number + 1 + attempt)).Makes (time + seconds (2 ^ attempt - 1)) .reconnect
              success ∧
            (success = true → ∃ healthy, (turn (number + 1 + attempt + 1)).Makes
              (time + seconds (2 ^ attempt - 1) + seconds 5) .health healthy)) ∧
        ((∀ earlier < 3, ∃ now, (turn (number + 1 + earlier)).Makes now .reconnect false) →
          (turn (number + 4)).Loses (time + seconds 7) ∧
            ∃ success, (turn (number + 5)).Makes (time + seconds 8) .connect success)) ∧
      ∀ target, ∃ number, World.runUntil target { connections } = turn number ∧
        target < (turn number).wakesAt ∧ ∀ earlier < number, (turn earlier).wakesAt ≤ target := by
  intro turn
  have goesOn (number : Nat) : turn (number + 1) = (turn number).wake :=
    World.turn_succ connections number
  refine ⟨World.makes_of_stage rfl rfl, ?_, ?_, ?_, ?_, fun target => ?_⟩
  · intro first number begins missing
    have wait := World.delay_turn connections begins fun later before =>
      missing later (Nat.le_of_lt before)
    have gone := missing number (Nat.le_refl number)
    rw [goesOn] at gone
    obtain ⟨later, stands⟩ := (World.paced_turn connections (first + number)).setback gone
    rw [goesOn]
    exact World.makes_of_stage (by rw [stands]; rfl) (later.trans (congrArg _ wait))
  · intro number time connected
    rw [goesOn]
    exact World.health_of_connect connected
  · intro number time healthy
    rw [goesOn]
    exact World.health_of_health healthy
  · intro number time failed
    refine ⟨fun attempt limit before => ?_, World.loses_turn connections failed⟩
    have reviving := World.reviving_turn connections failed limit before
    obtain ⟨success, makes⟩ := reviving.makes
    refine ⟨success, makes, ?_⟩
    rintro rfl
    rw [goesOn]
    exact reviving.succeeded makes
  · exact World.runUntil_eq_iterate target { connections }

/-- A script: the first attempt to connect fails, the second does not. The connection is healthy
once, and then neither healthy nor to be revived. No later attempt to connect succeeds. -/
def lossAndReturn : List (Option Connection) :=
  [none, some { health := [true, false], reconnect := [false, false, false] }]

/-- The first wait takes a second. The second health check comes five seconds after the first, at
six seconds; so the store is taken away at thirteen. The waits begin anew then. -/
theorem timing_of_lossAndReturn :
    let turn := World.turn lossAndReturn
    (∃ success, (turn 1).Makes (seconds 1) .connect success) ∧
      (∃ healthy, (turn 3).Makes (seconds 6) .health healthy) ∧
      (turn 7).Loses (seconds 13) ∧
      (∃ success, (turn 8).Makes (seconds 14) .connect success) ∧
      ∃ success, (turn 9).Makes (seconds 16) .connect success := by
  obtain ⟨-, connects, -, looks, revives, -⟩ := timing_of_run lossAndReturn
  obtain ⟨loses, again⟩ := (revives 3 (seconds 6) (by decide)).2 <| by
    intro earlier before
    interval_cases earlier
    · exact ⟨seconds 6, by decide⟩
    · exact ⟨seconds 7, by decide⟩
    · exact ⟨seconds 9, by decide⟩
  refine ⟨connects 0 0 (.inl rfl) (by decide), looks 2 (seconds 1) (by decide), loses, again, ?_⟩
  exact connects 7 1 (.inr (by decide)) (by decide)

end TimedQuiz.Supervisor
