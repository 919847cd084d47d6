/-
**The law of the recorder.**

* `Lawful`: what holds of the queue, of the calls and of the stores after some steps, and what the
  worker does from there on.
* `lawful_of_run`: it holds after any steps, whatever stores were in place meanwhile.

Which events have to be recorded, and who waits, is read off the steps alone.
-/

import Mathlib.Data.List.Forall2
import TimedQuiz.Proofs.Recorder.Office

namespace TimedQuiz.Recorder

open Store

/-! ### What the steps ask for -/

/-- How the recorder is registered, as far as the steps tell. -/
structure Membership where
  /-- How many identities have been given out. -/
  issued : Nat := 0
  /-- The identity that the recorder was given. -/
  identity : Option Nat := none
  /-- The identity has not been unsubscribed since. -/
  subscribed : Bool := false

/-- What becomes of the registration. -/
def Membership.next (membership : Membership) : Step → Membership
  | .attend _ => { membership with issued := membership.issued + 1 }
  | .register =>
    match membership.identity with
    | some _ => membership
    | none =>
      { issued := membership.issued + 1
        identity := some membership.issued
        subscribed := true }
  | .unsubscribe id =>
    if membership.identity = some id then { membership with subscribed := false } else membership
  | _ => membership

/-- The registration after some steps. -/
def membership (steps : List Step) : Membership := steps.foldl Membership.next {}

/-- What is asked of the worker. -/
inductive Order
  /-- An event is to be recorded. -/
  | announced (wall : Timestamp) (event : Event)
  /-- Someone waits. -/
  | waits (waiter : Nat)

/-- What a step asks of the worker. -/
def Step.order? (membership : Membership) : Step → Option Order
  | .publish wall event =>
    if membership.subscribed ∧ event.kind ∈ kinds then some (.announced wall event) else none
  | .flush waiter => some (.waits waiter)
  | _ => none

/-- What is asked of the worker, in order. -/
def ordersFrom (membership : Membership) : List Step → List Order
  | [] => []
  | step :: later => (step.order? membership).toList ++ ordersFrom (membership.next step) later

/-- What some steps from the beginning ask of the worker. -/
def orders (steps : List Step) : List Order := ordersFrom {} steps

/-- A job is there for what was asked. -/
inductive Answers : Order → Job → Prop
  | announced {wall : Timestamp} {event : Event} {job : Job} (id : ResultId)
      (own : jobOf? id wall event = some job) : Answers (.announced wall event) job
  | waits (waiter : Nat) : Answers (.waits waiter) (.flush waiter)

/-! ### The law -/

/-- The calls that have been made on a store and did not fail. -/
def Office.reached (office : Office) (store : Nat) : List (Timestamp × Call) :=
  (office.made.filter (Made.reaches · store)).map fun made => (made.wall, made.pending.call)

/-- What holds of the recorder and of its stores after some steps. -/
structure Lawful (initial : Nat → Memory) (steps : List Step) (office : Office) : Prop where
  /-- There is one job for each event that was to be recorded and for each one who waits, and no
  other. Jobs are taken in the order in which they were asked for. -/
  jobs : List.Forall₂ Answers (orders steps) office.jobs
  /-- No two results share an identity. -/
  fresh : (office.jobs.filterMap Job.resultId?).Pairwise (· < ·)
  /-- The calls are those of the jobs that have been taken, in their order, each on the store that
  was in the slot when its job was taken. -/
  calls : office.made.map Made.pending ++ office.hand = office.taken.flatMap Taken.calls
  /-- Every call of the jobs before the one taken last has been made. -/
  settled : office.taken.dropLast.flatMap Taken.calls <+: office.made.map Made.pending
  /-- Whoever waits is released when his own job is taken. -/
  released : office.recorder.released = (office.taken.map Taken.job).filterMap Job.waiter?
  /-- A store holds what the calls that did not fail have made of it, one after the other. -/
  stores : ∀ store, office.stores store =
    (office.reached store).foldl (fun memory entry => entry.2.apply entry.1 memory)
      (initial store)
  /-- The counters of a player are those that the last such call brought for him. -/
  counters : ∀ store username, ((office.stores store).recordOrInitial username).stats =
    ((office.reached store).filterMap fun entry => entry.2.statsOf? username).getLast?.getD
      ((initial store).recordOrInitial username).stats
  /-- As many rounds of a player are counted as such calls have counted one for him, as long as a
  counter can hold their number. -/
  rounds : ∀ store username,
    let rounds := ((initial store).recordOrInitial username).gamesPlayed +
      (office.reached store).countP fun entry => entry.2.counts username
    rounds ≤ counterLimit → ((office.stores store).recordOrInitial username).gamesPlayed = rounds
  /-- A worker with nothing in hand takes the first job of the queue, with the store that is in the
  slot then, and whoever waits for it is released. -/
  takes : ∀ job later, office.hand = [] → office.recorder.queue = job :: later →
    let taken : Taken := { job, present := office.slot }
    let next := office.step .take
    next.taken = office.taken ++ [taken] ∧ next.hand = taken.calls ∧ next.recorder.queue = later ∧
      next.recorder.released = office.recorder.released ++ job.waiter?.toList
  /-- A worker with calls in hand makes the first of them. -/
  makes : ∀ (wall : Timestamp) pending later, office.hand = pending :: later →
    let made : Made := { wall, pending }
    let next := office.step (.call wall)
    next.made = office.made ++ [made] ∧ next.hand = later
  /-- Once the worker has had enough turns, whatever happens in between, all jobs have been taken
  that have been asked for so far, in their order, and all who waited for one are released. -/
  served : ∀ later : List Step, office.load ≤ office.turns later →
    let last := later.foldl Office.step office
    office.jobs <+: last.taken.map Taken.job ∧
      office.jobs.filterMap Job.waiter? <+: last.recorder.released
  /-- A worker that is left alone takes them all, makes their calls, and comes to an end. -/
  drained : ∀ wall,
    let last := (Office.work wall)^[office.load] office
    last.hand = [] ∧ last.recorder.queue = [] ∧ last.taken.map Taken.job = office.jobs

/-! ### Registration -/

variable {initial : Nat → Memory} {steps : List Step} {office : Office}

theorem membership_concat (step : Step) :
    membership (steps ++ [step]) = (membership steps).next step := by
  rw [membership, List.foldl_append]
  rfl

theorem orders_concat (steps : List Step) (step : Step) :
    orders (steps ++ [step]) = orders steps ++ (step.order? (membership steps)).toList := by
  have general (start : Membership) : ordersFrom start (steps ++ [step]) =
      ordersFrom start steps ++ (step.order? (steps.foldl Membership.next start)).toList := by
    induction steps generalizing start with
    | nil => exact List.append_nil _
    | cons first rest ih =>
      rw [List.cons_append, ordersFrom, ordersFrom, ih, List.append_assoc]
      rfl
  exact general {}

/-- The registrations of the recorder among those of a kind. -/
def recorderEntries (bus : Bus App.Observer) (kind : Event.Kind) :
    List (Registration App.Observer) :=
  (bus.registrations kind).filter fun registration => registration.listener = .recorder

/-- The bus is as the steps tell. -/
structure Enrolled (membership : Membership) (office : Office) : Prop where
  enrolled : office.enrolled = membership.identity.isSome
  issued : office.bus.next = membership.issued
  /-- A recorder that is subscribed has an identity. -/
  known : membership.subscribed = true → membership.identity.isSome = true
  /-- The recorder is registered once for each of its kinds while it is subscribed, and not at all
  otherwise. -/
  entries : ∀ kind, recorderEntries office.bus kind =
    match membership.identity with
    | some id =>
      if membership.subscribed then List.replicate (kinds.count kind) { id, listener := .recorder }
      else []
    | none => []

/-- Only what concerns the bus matters. -/
theorem Enrolled.congr {membership : Membership} {other : Office}
    (enrolled : Enrolled membership office) (same : other.enrolled = office.enrolled)
    (bus : other.bus = office.bus) : Enrolled membership other where
  enrolled := same.trans enrolled.enrolled
  issued := bus ▸ enrolled.issued
  known := enrolled.known
  entries := bus ▸ enrolled.entries

theorem recorderEntries_subscribe (bus : Bus App.Observer) (named : List Event.Kind)
    (listener : App.Observer) (kind : Event.Kind) :
    recorderEntries (bus.subscribe named listener).2 kind =
      recorderEntries bus kind ++
        if listener = .recorder then
          List.replicate (named.count kind) { id := bus.next, listener := .recorder }
        else [] := by
  rw [recorderEntries, Bus.subscribe, List.filter_append, List.filter_replicate]
  cases listener <;> rfl

theorem Enrolled.step {membership : Membership} (enrolled : Enrolled membership office)
    (step : Step) : Enrolled (membership.next step) (office.step step) := by
  cases step with
  | attend named =>
    refine ⟨enrolled.enrolled, congrArg (· + 1) enrolled.issued, enrolled.known, fun kind => ?_⟩
    refine (recorderEntries_subscribe office.bus named .feed kind).trans ?_
    rw [if_neg (by rintro ⟨⟩), List.append_nil]
    exact enrolled.entries kind
  | register =>
    rw [Office.step, enrolled.enrolled, Membership.next]
    cases known : membership.identity with
    | some id => exact enrolled
    | none =>
      refine ⟨rfl, congrArg (· + 1) enrolled.issued, fun _ => rfl, fun kind => ?_⟩
      have none := enrolled.entries kind
      rw [known] at none
      refine (recorderEntries_subscribe office.bus kinds .recorder kind).trans ?_
      rw [none, enrolled.issued]
      rfl
  | unsubscribe id =>
    have entries (kind : Event.Kind) : recorderEntries (office.bus.unsubscribe id).2 kind =
        (recorderEntries office.bus kind).filter fun registration => registration.id != id :=
      List.filter_comm _ _ _
    rw [Office.step, Membership.next]
    by_cases own : membership.identity = some id
    · rw [if_pos own]
      refine ⟨enrolled.enrolled, enrolled.issued, (by rintro ⟨⟩), fun kind => ?_⟩
      have before := enrolled.entries kind
      rw [own] at before ⊢
      rw [entries, before]
      dsimp only
      rw [if_neg Bool.false_ne_true]
      split
      · rw [List.filter_replicate, bne_self_eq_false, if_neg Bool.false_ne_true]
      · rfl
    · rw [if_neg own]
      refine ⟨enrolled.enrolled, enrolled.issued, enrolled.known, fun kind => ?_⟩
      rw [entries, enrolled.entries kind]
      cases known : membership.identity with
      | none => rfl
      | some other =>
        have apart : other ≠ id := fun same => own (known.trans (congrArg some same))
        dsimp only
        split
        · rw [List.filter_replicate, if_pos (bne_iff_ne.mpr apart)]
        · rfl
  | take =>
    refine enrolled.congr ?_ ?_ <;> rw [Office.step] <;> split <;> rfl
  | call wall =>
    refine enrolled.congr ?_ ?_ <;> rw [Office.step] <;> split <;> rfl
  | _ => exact enrolled.congr rfl rfl

/-- **The recorder queues a job exactly when it is subscribed and the event is one of its
kinds.** -/
theorem hearFrom_eq {membership : Membership} (enrolled : Enrolled membership office)
    (wall : Timestamp) (event : Event) :
    hearFrom office.bus wall event office.recorder =
      if membership.subscribed ∧ event.kind ∈ kinds then office.recorder.hear wall event
      else office.recorder := by
  have own : hearFrom office.bus wall event office.recorder =
      (recorderEntries office.bus event.kind).foldl (fun current _ => current.hear wall event)
        office.recorder := by
    rw [recorderEntries, List.foldl_filter, hearFrom, Bus.recipients]
    simp only [decide_eq_true_eq]
  rw [own, enrolled.entries]
  cases subscribed : membership.subscribed with
  | false => cases membership.identity <;> simp
  | true =>
    obtain ⟨id, known⟩ := Option.isSome_iff_exists.mp (enrolled.known subscribed)
    rw [known]
    cases event <;> rfl

/-! ### The queue -/

/-- A job that comes to the queue: it is there for what was asked, and a result in it gets the next
identity. -/
structure Comes (order : Order) (job : Job) (office next : Office) : Prop where
  answers : Answers order job
  jobs : next.jobs = office.jobs ++ [job]
  numbered : office.recorder.nextResult ≤ next.recorder.nextResult
  own : ∀ id, job.resultId? = some id →
    id = office.recorder.nextResult ∧ id < next.recorder.nextResult

/-- **A step brings one job to the queue if it asks for one, and none otherwise.** What the worker
does leaves the jobs as they are. -/
theorem step_jobs {membership : Membership} (enrolled : Enrolled membership office) (step : Step) :
    match step.order? membership with
    | some order => ∃ job, Comes order job office (office.step step)
    | none => (office.step step).jobs = office.jobs ∧
        (office.step step).recorder.nextResult = office.recorder.nextResult := by
  cases step with
  | publish wall event =>
    rw [Step.order?, Office.step, hearFrom_eq enrolled]
    split
    · rename_i order asked
      split at asked
      · rename_i listens
        obtain rfl := Option.some.inj asked
        rw [if_pos listens]
        cases event with
        | answerGraded value correct player =>
          exact ⟨.ranking player, .announced 0 rfl, (List.append_assoc _ _ _).symm, Nat.le_succ _,
            fun id own => by cases own⟩
        | roundEnded player summary =>
          refine ⟨_, .announced office.recorder.nextResult rfl, (List.append_assoc _ _ _).symm,
            Nat.le_succ _, ?_⟩
          intro id own
          obtain rfl := Option.some.inj own
          exact ⟨rfl, Nat.lt_succ_self _⟩
        | _ => simp [Event.kind, kinds] at listens
      · cases asked
    · rename_i unasked
      split at unasked
      · cases unasked
      · rename_i deaf
        rw [if_neg deaf]
        exact ⟨rfl, rfl⟩
  | flush waiter =>
    exact ⟨_, .waits waiter, (List.append_assoc _ _ _).symm, Nat.le_refl _,
      fun id own => by cases own⟩
  | take =>
    change (office.step .take).jobs = office.jobs ∧ _
    rw [Office.step]
    split
    · rename_i job recorder _ takes
      obtain ⟨queue, numbered, -⟩ := take?_eq_some takes
      refine ⟨?_, numbered⟩
      rw [Office.jobs, Office.jobs, queue, List.map_append, List.append_assoc]
      rfl
    · exact ⟨rfl, rfl⟩
  | register =>
    change (office.step .register).jobs = office.jobs ∧ _
    rw [Office.step]
    split <;> exact ⟨rfl, rfl⟩
  | call wall =>
    change (office.step (.call wall)).jobs = office.jobs ∧ _
    rw [Office.step]
    split <;> exact ⟨rfl, rfl⟩
  | _ => exact ⟨rfl, rfl⟩

/-- The jobs are those that were asked for, and their results are numbered. -/
structure Queued (steps : List Step) (office : Office) : Prop where
  jobs : List.Forall₂ Answers (orders steps) office.jobs
  fresh : (office.jobs.filterMap Job.resultId?).Pairwise (· < ·)
  below : ∀ id ∈ office.jobs.filterMap Job.resultId?, id < office.recorder.nextResult

theorem Queued.step (queued : Queued steps office) (enrolled : Enrolled (membership steps) office)
    (step : Step) : Queued (steps ++ [step]) (office.step step) := by
  have outcome := step_jobs enrolled step
  have asked := orders_concat steps step
  split at outcome
  · rename_i order orders
    obtain ⟨job, comes⟩ := outcome
    rw [orders] at asked
    refine ⟨?_, ?_, ?_⟩
    · rw [asked, comes.jobs]
      exact List.rel_append queued.jobs (.cons comes.answers .nil)
    · rw [comes.jobs, List.filterMap_append]
      refine List.pairwise_append.mpr ⟨queued.fresh, ?_, fun earlier member id own => ?_⟩
      · cases job
        all_goals first | exact .nil | exact List.pairwise_singleton _ _
      · have last : job.resultId? = some id := by simpa using own
        rw [(comes.own id last).1]
        exact queued.below earlier member
    · intro id member
      rw [comes.jobs, List.filterMap_append] at member
      rcases List.mem_append.mp member with old | new
      · exact Nat.lt_of_lt_of_le (queued.below id old) comes.numbered
      · exact (comes.own id (by simpa using new)).2
  · rename_i orders
    rw [orders, Option.toList_none, List.append_nil] at asked
    exact ⟨asked ▸ outcome.1 ▸ queued.jobs, outcome.1 ▸ queued.fresh,
      outcome.1 ▸ outcome.2 ▸ queued.below⟩

/-! ### The worker -/

/-- What the worker has done is what the jobs that have been taken ask for. -/
structure Worked (initial : Nat → Memory) (office : Office) : Prop where
  calls : office.made.map Made.pending ++ office.hand = office.taken.flatMap Taken.calls
  settled : office.taken.dropLast.flatMap Taken.calls <+: office.made.map Made.pending
  released : office.recorder.released = (office.taken.map Taken.job).filterMap Job.waiter?
  stores : ∀ store, office.stores store =
    (office.reached store).foldl (fun memory entry => entry.2.apply entry.1 memory)
      (initial store)

/-- Only what the worker does matters. -/
theorem Worked.congr {other : Office} (worked : Worked initial office)
    (recorder : other.recorder.released = office.recorder.released)
    (hand : other.hand = office.hand) (taken : other.taken = office.taken)
    (made : other.made = office.made) (same : other.stores = office.stores) :
    Worked initial other where
  calls := by rw [made, hand, taken, worked.calls]
  settled := by rw [made, taken]; exact worked.settled
  released := by rw [recorder, taken, worked.released]
  stores store := by
    rw [Office.reached, made, same]
    exact worked.stores store

theorem released_hearFrom (bus : Bus App.Observer) (wall : Timestamp) (event : Event)
    (recorder : Recorder) :
    (hearFrom bus wall event recorder).released = recorder.released := by
  refine List.foldlRecOn (motive := fun other : Recorder => other.released = recorder.released)
    _ _ rfl fun current same registration _ => ?_
  split
  · rw [← same]
    unfold hear
    split <;> rfl
  · exact same

/-- A job is taken only when nothing is left of the one before. -/
theorem Worked.take (worked : Worked initial office) : Worked initial (office.step .take) := by
  rw [Office.step]
  split
  · rename_i job recorder idle takes
    have done : office.made.map Made.pending = office.taken.flatMap Taken.calls := by
      rw [← worked.calls, idle, List.append_nil]
    obtain ⟨-, -, released⟩ := take?_eq_some takes
    refine ⟨?_, ?_, ?_, worked.stores⟩
    · rw [List.flatMap_append, done, List.flatMap_singleton]
    · exact List.dropLast_concat ▸ done ▸ List.prefix_rfl
    · rw [released, worked.released, List.map_append, List.filterMap_append]
      cases job <;> rfl
  · exact worked

/-- A call that fails leaves its store alone, and no call touches any other store. -/
theorem mark_eq (office : Office) (wall : Timestamp) (pending : Pending) (store : Nat) :
    office.mark wall pending store =
      if Made.reaches { wall, pending } store then
        pending.call.apply wall (office.stores store)
      else office.stores store := by
  rw [Office.mark, Call.on_eq, Made.reaches]
  by_cases own : store = pending.present.store
  · simp [own, Pending.fails]
  · simp [own, Ne.symm own]

theorem Worked.call (worked : Worked initial office) (wall : Timestamp) :
    Worked initial (office.step (.call wall)) := by
  rw [Office.step]
  split
  · exact worked
  · rename_i pending hand held
    have calls := worked.calls
    rw [held] at calls
    refine ⟨?_, ?_, worked.released, fun store => ?_⟩
    · rw [← calls, List.map_append, List.append_assoc]
      rfl
    · rw [List.map_append]
      exact worked.settled.trans (List.prefix_append _ _)
    · dsimp only
      rw [mark_eq, Office.reached, List.filter_append, List.map_append, List.foldl_append,
        ← Office.reached, ← worked.stores store, List.filter_singleton]
      cases Made.reaches { wall, pending } store <;> rfl

theorem Worked.step (worked : Worked initial office) (step : Step) :
    Worked initial (office.step step) := by
  cases step with
  | take => exact worked.take
  | call wall => exact worked.call wall
  | publish wall event =>
    exact worked.congr (released_hearFrom _ _ _ _) rfl rfl rfl rfl
  | register =>
    rw [Office.step]
    split
    · exact worked
    · exact worked.congr rfl rfl rfl rfl rfl
  | _ => exact worked.congr rfl rfl rfl rfl rfl

/-! ### Runs -/

theorem worked_after (initial : Nat → Memory) (steps : List Step) :
    Worked initial (Office.after initial steps) := by
  refine List.foldlRecOn (motive := Worked initial) _ _ ?_ fun office worked step _ =>
    worked.step step
  exact ⟨rfl, List.prefix_rfl, rfl, fun _ => rfl⟩

/-- The worker's turns are enough for all jobs known so far. -/
theorem served_of_turns
    (worked : ∀ later : List Step, Worked initial (later.foldl Office.step office))
    (later : List Step) (enough : office.load ≤ office.turns later) :
    let last := later.foldl Office.step office
    office.jobs <+: last.taken.map Taken.job ∧
      office.jobs.filterMap Job.waiter? <+: last.recorder.released := by
  intro last
  have jobs : office.jobs.length - office.taken.length = office.recorder.queue.length := by
    rw [Office.jobs, List.length_append, List.length_map, Nat.add_sub_cancel_left]
  have many : office.jobs.length ≤ (last.taken.map Taken.job).length := by
    rw [List.length_map]
    refine Office.length_taken_of_turns later (Nat.le_refl _) ?_
    rw [jobs]
    exact enough
  have taken : office.jobs <+: last.taken.map Taken.job :=
    List.prefix_of_prefix_length_le (office.jobs_after later).2 (List.prefix_append _ _) many
  refine ⟨taken, ?_⟩
  rw [(worked later).released]
  exact taken.filterMap _

/-- **The law of the recorder.** After any steps in any order, over any stores, the jobs are those
that were asked for, they have been taken in order, and each store holds what the calls that did not
fail have made of it. And the worker goes on: so many more turns, and all of these jobs have been
taken, and all who wait are released. -/
theorem lawful_of_run (initial : Nat → Memory) (steps : List Step) :
    Lawful initial steps (Office.after initial steps) := by
  have invariant : Enrolled (membership steps) (Office.after initial steps) ∧
      Queued steps (Office.after initial steps) := by
    induction steps using List.reverseRecOn with
    | nil => exact ⟨⟨rfl, rfl, (by rintro ⟨⟩), fun _ => rfl⟩, ⟨.nil, .nil, by rintro _ ⟨⟩⟩⟩
    | append_singleton steps step ih =>
      obtain ⟨enrolled, queued⟩ := ih
      rw [membership_concat, Office.after, List.foldl_append]
      exact ⟨enrolled.step step, queued.step enrolled step⟩
  obtain ⟨-, queued⟩ := invariant
  have worked := worked_after initial steps
  have counted (store : Nat) (username : String) := stats_foldl (initial store) username
    ((Office.after initial steps).reached store)
  exact
    { jobs := queued.jobs
      fresh := queued.fresh
      calls := worked.calls
      settled := worked.settled
      released := worked.released
      stores := worked.stores
      counters := fun store username => by rw [worked.stores, (counted store username).1]
      rounds := fun store username _ => by rw [worked.stores, (counted store username).2]
      takes := fun job later free waits => by
        rw [Office.step_take free waits]
        exact ⟨rfl, rfl, rfl, rfl⟩
      makes := fun wall pending later held => by
        rw [Office.step_call held]
        exact ⟨rfl, rfl⟩
      served := served_of_turns fun later => by
        rw [Office.after, ← List.foldl_append]
        exact worked_after initial (steps ++ later)
      drained := fun wall => Office.idle_of_work wall (Nat.le_refl _) }

/-- An answer is graded and its round ends while players cannot be saved, another answer is graded
while there is no store, and then someone waits for all of this. -/
def outage : List Step :=
  let noon : Timestamp := { nanos := 0 }
  let present : Present := { store := 0, faults := { failing := [.savePlayer] } }
  let once : Player :=
    { username := "ann", totalScore := 1, correctAnswers := 1, totalAttempts := 1 }
  let twice : Player := { once with totalAttempts := 2 }
  let summary : Summary := { score := 1, attempts := 1, accuracy := 100.0, passed := true }
  [.register, .install present, .publish noon (.answerGraded 7 true once),
    .publish noon (.roundEnded once summary), .take, .call noon, .take, .clear, .call noon,
    .call noon, .publish noon (.answerGraded 8 false twice), .flush 5]

/-- The counters of the first answer are kept and the round is not counted. Whatever store comes
back, the worker goes on to the last job, and whoever waits is released. -/
theorem lawful_of_run_outage :
    let office := Office.after (fun _ => {}) outage
    let later : List Step := [.take, .install { store := 1, faults := {} }, .take, .take, .take,
      .unsubscribe 0, .take, .take]
    let last := later.foldl Office.step office
    ((office.stores 0).recordOrInitial "ann").stats.totalAttempts = 1 ∧
      ((office.stores 0).recordOrInitial "ann").gamesPlayed = 0 ∧
      office.recorder.queue.length = 2 ∧ office.jobs <+: last.taken.map Taken.job ∧
      5 ∈ last.recorder.released := by
  intro office later last
  have lawful := lawful_of_run (fun _ => {}) outage
  obtain ⟨taken, released⟩ := lawful.served later (by decide)
  refine ⟨?_, ?_, by decide, taken, released.subset (by decide)⟩
  · rw [lawful.counters 0 "ann"]
    decide
  · rw [lawful.rounds 0 "ann" (by decide)]
    decide

end TimedQuiz.Recorder
