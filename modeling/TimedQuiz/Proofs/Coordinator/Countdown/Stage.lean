/-
**How far the countdown of a round has got.**

The countdown looks at the clock when its round is opened and then once every period, until a look
finds no time left. What it finds it tells the coordinator, who announces it if the round is still
on. The look that finds no time left is the last, and it sends the end of the round after its news.

* `World.Exact`: on an exact clock work comes due at its time and never later, and no time goes by
  while commands wait to be handled.
* `World.KeepsTime`, `World.Patient`: commands may wait and be handled slowly; no due time is passed
  over meanwhile, or only, no timer goes off early.
* `Timely`: what the log of a run on such a clock tells about the countdown.
* `Stage`: where the countdown of the running round stands between two steps, among the work under
  way and the commands that wait.
-/

import Mathlib.Algebra.Order.Floor.Div
import TimedQuiz.Proofs.Coordinator.Work
import TimedQuiz.Proofs.Timeline

namespace TimedQuiz

/-! ### The times of the looks -/

namespace Timings

variable (timings : Timings) (start : Span) {earlier number : Nat}

/-- When the countdown of a round looks at the clock; the first look has the number zero. -/
def look (number : Nat) : Span := start + number * timings.tick

/-- The first look that finds no time left. -/
def lastLook : Nat := timings.round ⌈/⌉ timings.tick

theorem look_zero : timings.look start 0 = start := by simp [look]

theorem look_succ : timings.look start (number + 1) = timings.look start number + timings.tick := by
  unfold look Span
  rw [Nat.succ_mul, Nat.add_assoc]

variable {timings} in
theorem look_lt_look (ticks : 0 < timings.tick) :
    timings.look start earlier < timings.look start number ↔ earlier < number := by
  unfold look Span
  rw [Nat.add_lt_add_iff_left, Nat.mul_lt_mul_right ticks]

theorem look_le_look (order : earlier ≤ number) :
    timings.look start earlier ≤ timings.look start number :=
  Nat.add_le_add_left (Nat.mul_le_mul_right _ order) _

theorem remaining_look (number : Nat) :
    ({ startedAt := start, duration := timings.round } : Clock).remaining
        (timings.look start number) = timings.round - number * timings.tick := by
  rw [Clock.remaining, Clock.elapsed, look]
  exact congrArg _ (Nat.add_sub_cancel_left ..)

variable {timings} in
/-- A look finds no time left exactly from the last one on. -/
theorem left_eq_zero_iff (ticks : 0 < timings.tick) :
    timings.round - number * timings.tick = 0 ↔ timings.lastLook ≤ number := by
  rw [lastLook, ceilDiv_le_iff_le_smul ticks, smul_eq_mul, Nat.mul_comm]
  exact Nat.sub_eq_zero_iff_le

/-- By its last look the time of a round is up. -/
theorem le_look_lastLook (ticks : 0 < timings.tick) :
    start + timings.round ≤ timings.look start timings.lastLook :=
  Nat.add_le_add_left (Nat.le_of_sub_eq_zero ((left_eq_zero_iff ticks).mpr (Nat.le_refl _))) start

end Timings

namespace Coordinator

open Timeline (opened? looks)

variable {timings : Timings} {now : Span} {c next : Coordinator} {world later : World}

/-! ### Runs on an exact clock -/

/-- When work is due; a fetch may take any time. -/
def Job.due? : Job → Option Span
  | .fetch _ _ => none
  | .countDown _ _ due => some due
  | .reminder due _ => some due

namespace World

/-- The step respects an exact clock: work that comes due does so at its time, no due time is passed
over, and no time goes by while a command waits or is handled. -/
def Exact (world : World) : Step → Prop
  | .ask _ => True
  | .deliver pauses => pauses = []
  | .fire ticket _ => ∀ task ∈ world.tasks, task.ticket = ticket →
      ∀ due ∈ task.job.due?, due = world.now
  | .wait span => world.mailbox = [] ∧
      ∀ task ∈ world.tasks, ∀ due ∈ task.job.due?, world.now + span ≤ due

instance (world : World) : DecidablePred world.Exact
  | .ask _ => inferInstanceAs (Decidable True)
  | .deliver pauses => inferInstanceAs (Decidable (pauses = []))
  | .fire ticket _ => inferInstanceAs (Decidable (∀ task ∈ world.tasks, task.ticket = ticket →
      ∀ due ∈ task.job.due?, due = world.now))
  | .wait span => inferInstanceAs (Decidable (world.mailbox = [] ∧
      ∀ task ∈ world.tasks, ∀ due ∈ task.job.due?, world.now + span ≤ due))

/-- Nothing comes due before so much time has gone by. -/
def Clear (world : World) (span : Span) : Prop :=
  0 < span → ∀ task ∈ world.tasks, ∀ due ∈ task.job.due?, world.now + span ≤ due

instance (world : World) (span : Span) : Decidable (world.Clear span) :=
  inferInstanceAs (Decidable (0 < span → ∀ task ∈ world.tasks, ∀ due ∈ task.job.due?,
    world.now + span ≤ due))

/-- The step keeps time: work that comes due does so at its time, and no due time is passed over,
neither between commands nor while one is handled. -/
def KeepsTime (world : World) : Step → Prop
  | .ask _ => True
  | .deliver pauses => world.Clear (pauses.foldl (· + ·) 0)
  | .fire ticket _ => ∀ task ∈ world.tasks, task.ticket = ticket →
      ∀ due ∈ task.job.due?, due = world.now
  | .wait span => world.Clear span

instance (world : World) : DecidablePred world.KeepsTime
  | .ask _ => inferInstanceAs (Decidable True)
  | .deliver pauses => inferInstanceAs (Decidable (world.Clear (pauses.foldl (· + ·) 0)))
  | .fire ticket _ => inferInstanceAs (Decidable (∀ task ∈ world.tasks, task.ticket = ticket →
      ∀ due ∈ task.job.due?, due = world.now))
  | .wait span => inferInstanceAs (Decidable (world.Clear span))

/-- No timer goes off before its time. -/
def Patient (world : World) : Step → Prop
  | .fire ticket _ => ∀ task ∈ world.tasks, task.ticket = ticket →
      ∀ due ∈ task.job.due?, due ≤ world.now
  | _ => True

instance (world : World) : DecidablePred world.Patient
  | .ask _ => inferInstanceAs (Decidable True)
  | .deliver _ => inferInstanceAs (Decidable True)
  | .fire ticket _ => inferInstanceAs (Decidable (∀ task ∈ world.tasks, task.ticket = ticket →
      ∀ due ∈ task.job.due?, due ≤ world.now))
  | .wait _ => inferInstanceAs (Decidable True)

/-- Nothing is left to do at this instant, except that a fetch may complete. -/
def Settled (world : World) : Prop :=
  world.mailbox = [] ∧ ∀ task ∈ world.tasks, ∀ due ∈ task.job.due?, world.now < due

instance (world : World) : Decidable world.Settled :=
  inferInstanceAs (Decidable (_ ∧ ∀ task ∈ world.tasks, ∀ due ∈ task.job.due?, world.now < due))

end World

/-- Every step of a run respects an exact clock. -/
def Punctual (timings : Timings) (steps : List World.Step) : Prop :=
  EachAfter (fun before step => (World.run timings {} before).Exact step) steps

instance (timings : Timings) (steps : List World.Step) : Decidable (Punctual timings steps) :=
  inferInstanceAs (Decidable (EachAfter _ steps))

/-! ### What is announced when -/

/-- The time left is told at the next look of the round that is on, and rightly. A round ends no
later than its last look, and before that each look has been told whose time is past. -/
def Timely (timings : Timings) (before : List (Span × Event)) (entry : Span × Event) : Prop :=
  match entry.2 with
  | .tick remaining => ∃ start, opened? before = some start ∧
      entry.1 = timings.look start (looks before) ∧
      remaining = timings.round - looks before * timings.tick ∧
      looks before ≤ timings.lastLook
  | .roundEnded _ _ => ∃ start, opened? before = some start ∧
      entry.1 ≤ timings.look start timings.lastLook ∧
      ∀ number, timings.look start number < entry.1 → number < looks before
  | _ => True

/-! ### The countdown among the work under way -/

/-- The work is a countdown. -/
def Task.isCountdown (task : Task) : Bool :=
  match task.job with
  | .countDown _ _ _ => true
  | _ => false

/-- The command brings news from the countdown of a round. -/
def Command.isNewsOf (generation : Nat) : Command → Bool
  | tick of _ => of == generation
  | expired of => of == generation
  | _ => false

/-- None of the commands brings news from the countdown of a round. -/
def Quiet (generation : Nat) (commands : List Command) : Prop :=
  ∀ command ∈ commands, command.isNewsOf generation = false

/-- The countdowns under way. -/
def World.countdowns (world : World) : List Task := world.tasks.filter Task.isCountdown

/-- How far the countdown of the running round has got. -/
inductive Stage (timings : Timings) (start : Span) (c : Coordinator) (world : World) : Prop
  /-- Every look so far has been told, and the next is ahead. -/
  | waiting {ticket : Nat} {since : Span} (held : c.countdown = some ticket)
      (ticking : world.countdowns = [{
        ticket, since
        job := .countDown c.generation { startedAt := start, duration := timings.round }
          (timings.look start (looks world.log)) }])
      (quiet : Quiet c.generation world.mailbox)
      (past : ∀ number < looks world.log, timings.look start number ≤ world.now)
      (ahead : world.now ≤ timings.look start (looks world.log))
      (within : looks world.log ≤ timings.lastLook)
  /-- A look has found some time left. -/
  | found {ticket : Nat} {since : Span} {before after : List Command}
      (held : c.countdown = some ticket)
      (ticking : world.countdowns = [{
        ticket, since
        job := .countDown c.generation { startedAt := start, duration := timings.round }
          (timings.look start (looks world.log + 1)) }])
      (mailbox : world.mailbox = before ++
        .tick c.generation (timings.round - looks world.log * timings.tick) :: after)
      (quiet : Quiet c.generation (before ++ after))
      (present : world.now = timings.look start (looks world.log))
      (within : looks world.log < timings.lastLook)
  /-- The last look has found no time left. -/
  | spent {before after : List Command} (done : world.countdowns = [])
      (mailbox : world.mailbox = before ++
        .tick c.generation 0 :: .expired c.generation :: after)
      (quiet : Quiet c.generation (before ++ after))
      (present : world.now = timings.look start (looks world.log))
      (last : looks world.log = timings.lastLook)
  /-- It has been told that no time is left, and the round ends next. -/
  | told {after : List Command} {earlier : List (Span × Event)} (done : world.countdowns = [])
      (mailbox : world.mailbox = .expired c.generation :: after)
      (quiet : Quiet c.generation after)
      (present : world.now = timings.look start timings.lastLook)
      (last : looks world.log = timings.lastLook + 1)
      (log : world.log = earlier ++ [(world.now, .tick 0)])

namespace Stage

variable {start : Span}

/-- No stage lies beyond the last look. -/
theorem now_le (stage : Stage timings start c world) :
    world.now ≤ timings.look start timings.lastLook := by
  cases stage with
  | waiting held ticking quiet past ahead within =>
    exact Nat.le_trans ahead (timings.look_le_look start within)
  | found held ticking mailbox quiet present within =>
    rw [present]
    exact timings.look_le_look start (Nat.le_of_lt within)
  | spent done mailbox quiet present last => exact Nat.le_of_eq (last ▸ present)
  | told done mailbox quiet present last log => exact Nat.le_of_eq present

/-- Every look whose time is past has been told. -/
theorem lt_looks (ticks : 0 < timings.tick) (stage : Stage timings start c world) {number : Nat}
    (past : timings.look start number < world.now) : number < looks world.log := by
  cases stage with
  | waiting held ticking quiet done ahead within =>
    exact (timings.look_lt_look start ticks).mp (Nat.lt_of_lt_of_le past ahead)
  | found held ticking mailbox quiet present within =>
    exact (timings.look_lt_look start ticks).mp (present ▸ past)
  | spent done mailbox quiet present last =>
    exact (timings.look_lt_look start ticks).mp (present ▸ past)
  | told done mailbox quiet present last log =>
    have before := (timings.look_lt_look start ticks).mp (present ▸ past)
    rw [last]
    exact Nat.lt_succ_of_lt before

/-- The stage stays while the countdown, its news and its looks do. -/
theorem congr (stage : Stage timings start c world) (generation : next.generation = c.generation)
    (held : next.countdown = c.countdown) (countdowns : later.countdowns = world.countdowns)
    (mailbox : later.mailbox = world.mailbox) (now : later.now = world.now)
    (same : looks later.log = looks world.log)
    (log : looks world.log = timings.lastLook + 1 → later.log = world.log) :
    Stage timings start next later := by
  cases stage with
  | waiting holds ticking quiet past ahead within =>
    rw [← held] at holds
    rw [← countdowns, ← generation, ← same] at ticking
    rw [← generation, ← mailbox] at quiet
    rw [← same, ← now] at past ahead
    rw [← same] at within
    exact .waiting holds ticking quiet past ahead within
  | found holds ticking waiting quiet present within =>
    rw [← held] at holds
    rw [← countdowns, ← generation, ← same] at ticking
    rw [← mailbox, ← generation, ← same] at waiting
    rw [← generation] at quiet
    rw [← same, ← now] at present
    rw [← same] at within
    exact .found holds ticking waiting quiet present within
  | spent done waiting quiet present last =>
    rw [← countdowns] at done
    rw [← mailbox, ← generation] at waiting
    rw [← generation] at quiet
    rw [← same, ← now] at present
    rw [← same] at last
    exact .spent done waiting quiet present last
  | told done waiting quiet present last news =>
    rw [← log last, ← now] at news
    rw [← countdowns] at done
    rw [← mailbox, ← generation] at waiting
    rw [← generation] at quiet
    rw [← now] at present
    rw [← same] at last
    exact .told done waiting quiet present last news

/-- Another command may queue up, as long as it brings no news of the countdown. -/
theorem post (stage : Stage timings start c world) {command : Command}
    (other : command.isNewsOf c.generation = false) :
    Stage timings start c (world.post command) := by
  have grown {commands : List Command} (quiet : Quiet c.generation commands) :
      Quiet c.generation (commands ++ [command]) := by
    intro found member
    rcases List.mem_append.mp member with old | new
    · exact quiet found old
    · rw [List.mem_singleton.mp new]
      exact other
  have queued (before rest : List Command) : world.mailbox = before ++ rest →
      (world.post command).mailbox = before ++ (rest ++ [command]) := by
    rintro waiting
    rw [World.post, waiting, List.append_assoc]
  cases stage with
  | waiting held ticking quiet past ahead within =>
    exact .waiting held ticking (grown quiet) past ahead within
  | found held ticking mailbox quiet present within =>
    have longer := grown quiet
    rw [List.append_assoc] at longer
    exact .found held ticking (queued _ _ mailbox) longer present within
  | spent done mailbox quiet present last =>
    have longer := grown quiet
    rw [List.append_assoc] at longer
    exact .spent done (queued _ _ mailbox) longer present last
  | told done mailbox quiet present last log =>
    exact .told done (queued [] _ mailbox) (grown quiet) present last log

/-- Another command may be taken from the mailbox, as long as it brings no news of the countdown.
The last look has not been told then. -/
theorem take (stage : Stage timings start c world) {command : Command} {rest : List Command}
    (waiting : world.mailbox = command :: rest)
    (other : command.isNewsOf c.generation = false) :
    Stage timings start c { world with mailbox := rest } ∧ looks world.log ≤ timings.lastLook := by
  -- What comes first is no news, so the news comes later.
  have later {before after : List Command} {news : Command}
      (mailbox : command :: rest = before ++ news :: after)
      (isNews : news.isNewsOf c.generation = true) :
      ∃ fewer, before = command :: fewer ∧ rest = fewer ++ news :: after := by
    cases before with
    | nil =>
      rw [(List.cons.inj mailbox).1, isNews] at other
      cases other
    | cons first fewer =>
      obtain ⟨rfl, same⟩ := List.cons.inj mailbox
      exact ⟨fewer, rfl, same⟩
  cases stage with
  | waiting held ticking quiet past ahead within =>
    rw [waiting] at quiet
    have fewer : Quiet c.generation rest := fun found member =>
      quiet found (List.mem_cons_of_mem _ member)
    exact ⟨.waiting held ticking fewer past ahead within, within⟩
  | found held ticking mailbox quiet present within =>
    obtain ⟨fewer, rfl, rest⟩ := later (waiting.symm.trans mailbox) (beq_self_eq_true c.generation)
    have still : Quiet c.generation (fewer ++ _) := fun found member =>
      quiet found (List.mem_cons_of_mem _ member)
    exact ⟨.found held ticking rest still present within, Nat.le_of_lt within⟩
  | spent done mailbox quiet present last =>
    obtain ⟨fewer, rfl, rest⟩ := later (waiting.symm.trans mailbox) (beq_self_eq_true c.generation)
    have still : Quiet c.generation (fewer ++ _) := fun found member =>
      quiet found (List.mem_cons_of_mem _ member)
    exact ⟨.spent done rest still present last, Nat.le_of_eq last⟩
  | told done mailbox quiet present last log =>
    rw [waiting] at mailbox
    rw [(List.cons.inj mailbox).1, Command.isNewsOf, beq_self_eq_true] at other
    cases other

end Stage

end Coordinator
end TimedQuiz
