/-
**The recorder among those who act beside it.**

Events are published, listeners come and go, stores are put in place and taken away, and some wait
for the queue to drain, while the worker takes its jobs and makes their calls one by one. All of
this may happen in any order.

* `Office.step`: what may happen, one thing at a time.
* `step_take`, `step_call`: what the worker does when it is its turn.
* `length_taken_of_turns`: whatever happens in between, so many turns of the worker are enough to
  take so many jobs.
* `idle_of_work`: a worker that is left alone comes to an end.
-/

import Mathlib.Data.List.Induction
import Mathlib.Logic.Function.Iterate
import TimedQuiz.Proofs.App.Listening
import TimedQuiz.Proofs.Recorder.Call

namespace TimedQuiz.Recorder

open Store

/-! ### What the worker has in hand -/

/-- A store in the slot: which one it is, and which of its calls fail. -/
structure Present where
  store : Nat
  faults : Faults
  deriving DecidableEq, Repr

/-- A call to be made on a store. -/
structure Pending where
  present : Present
  call : Call
  deriving DecidableEq, Repr

/-- A call that has been made, and when. -/
structure Made where
  wall : Timestamp
  pending : Pending
  deriving DecidableEq, Repr

/-- A job that has been taken, and the store that was in the slot then. -/
structure Taken where
  job : Job
  present : Option Present
  deriving DecidableEq, Repr

/-- The calls that a job comes down to: without a store there are none. -/
def Taken.calls (taken : Taken) : List Pending :=
  match taken.present with
  | none => []
  | some present => taken.job.calls.map fun call => { present, call }

theorem Taken.length_calls_le (taken : Taken) : taken.calls.length ≤ 2 := by
  rw [Taken.calls]
  split
  · exact Nat.zero_le _
  · rw [List.length_map]
    exact taken.job.length_calls_le

/-- The call fails. -/
def Pending.fails (pending : Pending) : Bool :=
  pending.present.faults.failing.contains pending.call.method

/-- The call is made on the given store and does not fail. -/
def Made.reaches (made : Made) (store : Nat) : Bool :=
  made.pending.present.store == store && !made.pending.fails

/-- The recorder, the bus, the slot and the stores, with what the worker has done so far. -/
structure Office where
  stores : Nat → Memory
  bus : Bus App.Observer := {}
  /-- The recorder has registered on the bus. -/
  enrolled : Bool := false
  recorder : Recorder := {}
  slot : Option Present := none
  /-- The calls that are left of the job taken last. -/
  hand : List Pending := []
  taken : List Taken := []
  made : List Made := []

/-! ### Steps -/

/-- What may happen next. -/
inductive Step
  /-- Someone else listens for some kinds. -/
  | attend (kinds : List Event.Kind)
  /-- The recorder registers, unless it has done so before. -/
  | register
  | unsubscribe (id : Nat)
  | publish (wall : Timestamp) (event : Event)
  | install (present : Present)
  | clear
  /-- The worker takes the next job and looks into the slot, once it is done with the job before. -/
  | take
  /-- The worker makes the next call. -/
  | call (wall : Timestamp)
  /-- Someone begins to wait for the jobs queued so far. -/
  | flush (waiter : Nat)

/-- The recorder hears of an event as often as it is registered for its kind. -/
def hearFrom (bus : Bus App.Observer) (wall : Timestamp) (event : Event) (recorder : Recorder) :
    Recorder :=
  (bus.recipients event).foldl
    (fun current registration =>
      if registration.listener = .recorder then current.hear wall event else current) recorder

/-- What the recorder hears of comes last in its queue. -/
theorem queue_hearFrom (bus : Bus App.Observer) (wall : Timestamp) (event : Event)
    (recorder : Recorder) : recorder.queue <+: (hearFrom bus wall event recorder).queue := by
  refine List.foldlRecOn (motive := fun other : Recorder => recorder.queue <+: other.queue) _ _
    List.prefix_rfl fun current grown registration _ => ?_
  split
  · refine grown.trans ?_
    unfold hear
    split
    · exact List.prefix_append _ _
    · exact List.prefix_rfl
  · exact grown

namespace Office

/-- A call that is made leaves its mark on its store. -/
def mark (office : Office) (wall : Timestamp) (pending : Pending) : Nat → Memory := fun store =>
  if store = pending.present.store then
    pending.call.on pending.present.faults wall (office.stores store)
  else office.stores store

/-- One step. -/
def step (office : Office) : Step → Office
  | .attend kinds => { office with bus := (office.bus.subscribe kinds .feed).2 }
  | .register =>
    if office.enrolled then office
    else { office with bus := (office.bus.subscribe kinds .recorder).2, enrolled := true }
  | .unsubscribe id => { office with bus := (office.bus.unsubscribe id).2 }
  | .publish wall event =>
    { office with recorder := hearFrom office.bus wall event office.recorder }
  | .install present => { office with slot := some present }
  | .clear => { office with slot := none }
  | .take =>
    match office.hand, office.recorder.take? with
    | [], some (job, recorder) =>
      let taken : Taken := { job, present := office.slot }
      { office with recorder, taken := office.taken ++ [taken], hand := taken.calls }
    | _, _ => office
  | .call wall =>
    match office.hand with
    | [] => office
    | pending :: hand =>
      { office with
        stores := office.mark wall pending
        hand
        made := office.made ++ [{ wall, pending }] }
  | .flush waiter => { office with recorder := office.recorder.flush waiter }

/-- Some steps from the beginning, over stores that hold something already. -/
def after (initial : Nat → Memory) (steps : List Step) : Office :=
  steps.foldl step { stores := initial }

end Office

/-- **In the application the recorder hears of an event in this way.** -/
theorem announce_hearFrom (app : App) (instant : Span) (event : Event) :
    (app.announce instant event).recorder =
      hearFrom app.bus (app.wallAt instant) event app.recorder := by
  rw [hearFrom, App.announce]
  generalize app.bus.recipients event = recipients
  generalize app.wallAt instant = wall
  induction recipients generalizing app with
  | nil => rfl
  | cons first rest ih => rw [List.foldl_cons, List.foldl_cons, ih, App.hear_recorder]

/-! ### The worker's turns -/

namespace Office

variable {office : Office}

/-- All jobs: those that have been taken, and those in the queue. -/
def jobs (office : Office) : List Job := office.taken.map Taken.job ++ office.recorder.queue

/-- The step is what the worker has to do next: with nothing in hand it takes a job, if there is
one, and otherwise it makes a call. -/
def isTurn (office : Office) : Step → Bool
  | .take => office.hand.isEmpty
  | .call _ => !office.hand.isEmpty
  | _ => false

/-- How many of some steps are turns of the worker. -/
def turns (office : Office) : List Step → Nat
  | [] => 0
  | step :: later => (office.isTurn step).toNat + (office.step step).turns later

/-- How many turns the worker needs at most: for each job one turn to take it, and two for its
calls. -/
def load (office : Office) : Nat := office.hand.length + 3 * office.recorder.queue.length

/-- What the worker has to do next. -/
def due (office : Office) (wall : Timestamp) : Step :=
  if office.hand.isEmpty then .take else .call wall

/-- The worker has a turn. -/
def work (wall : Timestamp) (office : Office) : Office := office.step (office.due wall)

/-- **A worker with nothing in hand takes the first job of the queue**, and releases who waits for
it. -/
theorem step_take {job : Job} {later : List Job} (free : office.hand = [])
    (waits : office.recorder.queue = job :: later) :
    let taken : Taken := { job, present := office.slot }
    office.step .take =
      { office with
        recorder :=
          { office.recorder with
            queue := later
            released := office.recorder.released ++ job.waiter?.toList }
        taken := office.taken ++ [taken]
        hand := taken.calls } := by
  rw [step, free, take?, waits]

/-- **A worker with calls in hand makes the first of them.** -/
theorem step_call {pending : Pending} {later : List Pending} (held : office.hand = pending :: later)
    (wall : Timestamp) :
    office.step (.call wall) =
      { office with
        stores := office.mark wall pending
        hand := later
        made := office.made ++ [{ wall, pending }] } := by
  rw [step, held]

theorem step_take_nil (none : office.recorder.queue = []) : office.step .take = office := by
  rw [step, take?, none]
  cases office.hand <;> rfl

/-- What is no turn leaves the worker alone, and the queue may only become longer. -/
theorem step_of_not_turn {next : Step} (other : office.isTurn next = false) :
    (office.step next).hand = office.hand ∧ (office.step next).taken = office.taken ∧
      office.recorder.queue <+: (office.step next).recorder.queue := by
  cases next with
  | publish wall event => exact ⟨rfl, rfl, queue_hearFrom ..⟩
  | flush waiter => exact ⟨rfl, rfl, List.prefix_append _ _⟩
  | register =>
    rw [step]
    split <;> exact ⟨rfl, rfl, List.prefix_rfl⟩
  | take =>
    rw [step]
    split
    · rename_i free _
      rw [isTurn, free] at other
      cases other
    · exact ⟨rfl, rfl, List.prefix_rfl⟩
  | call wall =>
    rw [step]
    split
    · exact ⟨rfl, rfl, List.prefix_rfl⟩
    · rename_i held
      rw [isTurn, held] at other
      cases other
  | _ => exact ⟨rfl, rfl, List.prefix_rfl⟩

/-- At its turn the worker finds nothing to do, or a job, or a call. -/
theorem cases_of_turn {next : Step} (turn : office.isTurn next = true) :
    (next = .take ∧ office.hand = [] ∧ office.recorder.queue = []) ∨
      (∃ job later, next = .take ∧ office.hand = [] ∧ office.recorder.queue = job :: later) ∨
        ∃ wall pending later, next = .call wall ∧ office.hand = pending :: later := by
  cases next with
  | take =>
    have free : office.hand = [] := List.isEmpty_iff.mp turn
    cases queued : office.recorder.queue with
    | nil => exact .inl ⟨rfl, free, rfl⟩
    | cons job later => exact .inr (.inl ⟨job, later, rfl, free, rfl⟩)
  | call wall =>
    cases held : office.hand with
    | nil =>
      rw [isTurn, held] at turn
      cases turn
    | cons pending later => exact .inr (.inr ⟨wall, pending, later, rfl, rfl⟩)
  | _ => cases turn

/-- The worker only moves jobs from the queue to those that have been taken. -/
theorem jobs_of_turn {next : Step} (turn : office.isTurn next = true) :
    office.taken <+: (office.step next).taken ∧ (office.step next).jobs = office.jobs := by
  obtain ⟨rfl, -, empty⟩ | ⟨job, later, rfl, free, waits⟩ | ⟨wall, pending, later, rfl, held⟩ :=
    cases_of_turn turn
  · rw [step_take_nil empty]
    exact ⟨List.prefix_rfl, rfl⟩
  · rw [step_take free waits, jobs, jobs, waits, List.map_append, List.append_assoc]
    exact ⟨List.prefix_append _ _, rfl⟩
  · rw [step_call held]
    exact ⟨List.prefix_rfl, rfl⟩

/-- **No job is ever lost**: those that have been taken stay taken, and the others wait. -/
theorem jobs_step (office : Office) (next : Step) :
    office.taken <+: (office.step next).taken ∧ office.jobs <+: (office.step next).jobs := by
  cases turn : office.isTurn next with
  | false =>
    obtain ⟨-, taken, more, queue⟩ := step_of_not_turn turn
    rw [taken]
    exact ⟨List.prefix_rfl, more, by rw [jobs, jobs, taken, ← queue, List.append_assoc]⟩
  | true =>
    obtain ⟨taken, jobs⟩ := jobs_of_turn turn
    exact ⟨taken, jobs ▸ List.prefix_rfl⟩

/-- So it stays in the course of any steps. -/
theorem jobs_after (office : Office) (later : List Step) :
    office.taken <+: (later.foldl step office).taken ∧
      office.jobs <+: (later.foldl step office).jobs := by
  refine List.foldlRecOn (motive := fun next : Office =>
    office.taken <+: next.taken ∧ office.jobs <+: next.jobs) _ _
    ⟨List.prefix_rfl, List.prefix_rfl⟩ fun next kept one _ => ?_
  obtain ⟨taken, jobs⟩ := next.jobs_step one
  exact ⟨kept.1.trans taken, kept.2.trans jobs⟩

/-- A turn lowers what is left to be done for the first jobs, as long as one of them waits. -/
theorem turn_lowers {count : Nat} {next : Step} (turn : office.isTurn next = true)
    (known : count ≤ office.jobs.length) (waits : office.taken.length < count) :
    (office.step next).hand.length + 3 * (count - (office.step next).taken.length) + 1 ≤
      office.hand.length + 3 * (count - office.taken.length) := by
  obtain ⟨rfl, -, empty⟩ | ⟨job, later, rfl, free, queued⟩ | ⟨wall, pending, later, rfl, held⟩ :=
    cases_of_turn turn
  · rw [jobs, empty, List.append_nil, List.length_map] at known
    exact absurd waits (Nat.not_lt_of_le known)
  · have few := Taken.length_calls_le { job, present := office.slot }
    rw [step_take free queued, free, List.length_append, List.length_singleton, List.length_nil]
    dsimp only
    omega
  · rw [step_call held, held, List.length_cons]
    dsimp only
    omega

/-- **So many turns are enough**, whatever happens in between: three for each of the first jobs that
has not been taken, besides the calls in hand. -/
theorem length_taken_of_turns {count : Nat} (later : List Step) (known : count ≤ office.jobs.length)
    (enough : office.hand.length + 3 * (count - office.taken.length) ≤ office.turns later) :
    count ≤ (later.foldl step office).taken.length := by
  induction later generalizing office with
  | nil =>
    rw [turns] at enough
    rw [List.foldl_nil]
    omega
  | cons next rest ih =>
    rcases Nat.lt_or_ge office.taken.length count with waits | done
    · have still := Nat.le_trans known (office.jobs_step next).2.length_le
      refine ih still ?_
      rw [turns] at enough
      cases turn : office.isTurn next with
      | false =>
        obtain ⟨hand, taken, -⟩ := step_of_not_turn turn
        rw [turn, Bool.toNat_false] at enough
        rw [hand, taken]
        omega
      | true =>
        have less := turn_lowers turn known waits
        rw [turn, Bool.toNat_true] at enough
        omega
    · exact Nat.le_trans done (office.jobs_after (next :: rest)).1.length_le

/-! ### A worker that is left alone -/

theorem isTurn_due (office : Office) (wall : Timestamp) :
    office.isTurn (office.due wall) = true := by
  rw [due]
  cases empty : office.hand.isEmpty with
  | true => exact empty
  | false => exact congrArg (! ·) empty

/-- The worker has less to do after its turn, if there was something. -/
theorem load_work (office : Office) (wall : Timestamp) :
    (office.work wall).load ≤ office.load - 1 := by
  rw [work]
  obtain ⟨same, free, empty⟩ | ⟨job, later, same, free, queued⟩ |
    ⟨now, pending, later, same, held⟩ := cases_of_turn (office.isTurn_due wall)
  · rw [same, step_take_nil empty, load, free, empty]
    exact Nat.zero_le _
  · have few := Taken.length_calls_le { job, present := office.slot }
    rw [same, step_take free queued, load, load, free, queued, List.length_cons]
    dsimp only
    omega
  · rw [same, step_call held, load, load, held, List.length_cons]
    dsimp only
    omega

/-- **A worker that is left alone comes to an end** after so many turns, with all jobs taken. -/
theorem idle_of_work (wall : Timestamp) {count : Nat} (enough : office.load ≤ count) :
    let last := (work wall)^[count] office
    last.hand = [] ∧ last.recorder.queue = [] ∧ last.taken.map Taken.job = office.jobs := by
  induction count generalizing office with
  | zero =>
    have nothing : office.load = 0 := Nat.le_zero.mp enough
    rw [load, Nat.add_eq_zero_iff, List.length_eq_zero_iff] at nothing
    have empty : office.recorder.queue = [] :=
      List.length_eq_zero_iff.mp ((Nat.mul_eq_zero.mp nothing.2).resolve_left (by decide))
    refine ⟨nothing.1, empty, ?_⟩
    rw [jobs, empty, List.append_nil]
    rfl
  | succ count ih =>
    have less := office.load_work wall
    have fewer : (office.work wall).load ≤ count := by omega
    obtain ⟨hand, queue, taken⟩ := ih fewer
    exact ⟨hand, queue, taken.trans (jobs_of_turn (office.isTurn_due wall)).2⟩

end Office

end TimedQuiz.Recorder
