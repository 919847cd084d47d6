/-
**The loads of a round, among all the work under way.**

A load of a round is a fetch under way or the wait for a retry, and, once it has come to its end,
the command that says so. Cancelling takes back only what is still under way, and only by its
ticket.

* `Sound`: tickets tell the work apart, and the coordinator holds the ticket of a load of the
  current round exactly when that load is its retry.
* `Move.sound`: every move keeps the state sound.
* `Sound.fire`, `Sound.outstanding_fire`: work that comes due keeps the state sound, and nothing
  that is outstanding is lost or gained by it.
-/

import Mathlib.Data.List.Nodup
import TimedQuiz.Coordinator.World
import TimedQuiz.Proofs.Coordinator.Move

namespace TimedQuiz.Coordinator

/-! ### Loads -/

/-- The command says that the wait of a round for its retry is over. -/
def Command.isRetryOf (generation : Nat) : Command → Bool
  | retryDue of => of == generation
  | _ => false

theorem Command.isLoadOf_of_isRetryOf {generation : Nat} {command : Command}
    (retry : command.isRetryOf generation = true) : command.isLoadOf generation = true := by
  cases command <;> first | exact retry | cases retry

namespace Task

/-- The work is a load of a round: a fetch, or the wait before the next one. -/
def isLoadOf (generation : Nat) (task : Task) : Bool :=
  match task.job with
  | .fetch of _ => of == generation
  | .countDown .. => false
  | .reminder _ command => command.isLoadOf generation

/-- The work is the wait of a round for its retry. -/
def isRetryOf (generation : Nat) (task : Task) : Bool :=
  match task.job with
  | .reminder _ command => command.isRetryOf generation
  | _ => false

/-- A retry is a load. -/
theorem isLoadOf_of_isRetryOf {generation : Nat} {task : Task}
    (retry : task.isRetryOf generation = true) : task.isLoadOf generation = true := by
  obtain ⟨ticket, since, job⟩ := task
  cases job with
  | fetch of call => cases retry
  | countDown of clock due => cases retry
  | reminder due command => exact Command.isLoadOf_of_isRetryOf retry

end Task

namespace World

/-- How many loads of a round are outstanding, under way or waiting to be handled. -/
def loads (world : World) (generation : Nat) : Nat :=
  world.tasks.countP (Task.isLoadOf generation) +
    world.mailbox.countP (Command.isLoadOf generation)

/-- How many retries of a round are set. -/
def retries (world : World) (generation : Nat) : Nat :=
  world.tasks.countP (Task.isRetryOf generation)

theorem retries_le_loads (world : World) (generation : Nat) :
    world.retries generation ≤ world.loads generation :=
  Nat.le_trans
    (List.countP_mono_left fun _ _ retry => Task.isLoadOf_of_isRetryOf retry)
    (Nat.le_add_right _ _)

/-! ### What effects start -/

section Started

variable (world : World) (ticket generation : Nat)

theorem loads_spawn (job : Job) :
    (world.spawn ticket job).loads generation =
      world.loads generation + (Task.mk ticket world.now job |>.isLoadOf generation).toNat := by
  rw [loads, spawn, List.countP_append, List.countP_singleton, Nat.add_right_comm, loads]
  cases Task.isLoadOf generation _ <;> rfl

theorem retries_spawn (job : Job) :
    (world.spawn ticket job).retries generation =
      world.retries generation + (Task.mk ticket world.now job |>.isRetryOf generation).toNat := by
  rw [retries, spawn, List.countP_append, List.countP_singleton, retries]
  cases Task.isRetryOf generation _ <;> rfl

@[simp]
theorem loads_fetch (of : Nat) :
    (world.perform (.fetch ticket of)).loads generation =
      world.loads generation + (of == generation).toNat :=
  loads_spawn _ ticket generation _

@[simp]
theorem retries_fetch (of : Nat) :
    (world.perform (.fetch ticket of)).retries generation = world.retries generation :=
  retries_spawn _ ticket generation _

@[simp]
theorem loads_countDown (of : Nat) (clock : Clock) :
    (world.perform (.countDown ticket of clock)).loads generation = world.loads generation :=
  loads_spawn _ ticket generation _

@[simp]
theorem retries_countDown (of : Nat) (clock : Clock) :
    (world.perform (.countDown ticket of clock)).retries generation = world.retries generation :=
  retries_spawn _ ticket generation _

@[simp]
theorem loads_remind (delay : Span) (command : Command) :
    (world.perform (.remind ticket delay command)).loads generation =
      world.loads generation + (command.isLoadOf generation).toNat :=
  loads_spawn _ ticket generation _

@[simp]
theorem retries_remind (delay : Span) (command : Command) :
    (world.perform (.remind ticket delay command)).retries generation =
      world.retries generation + (command.isRetryOf generation).toNat :=
  retries_spawn _ ticket generation _

end Started

/-! ### What effects leave alone -/

theorem perform_frame (world : World) (effect : Effect) :
    (world.perform effect).mailbox = world.mailbox ∧
      (world.perform effect).coordinator = world.coordinator ∧
      (world.perform effect).now = world.now := by
  cases effect <;> exact ⟨rfl, rfl, rfl⟩

theorem foldl_perform_frame (effects : List Effect) (world : World) :
    (effects.foldl perform world).mailbox = world.mailbox ∧
      (effects.foldl perform world).coordinator = world.coordinator ∧
      (effects.foldl perform world).now = world.now := by
  induction effects generalizing world with
  | nil => exact ⟨rfl, rfl, rfl⟩
  | cons effect rest ih =>
    obtain ⟨mailbox, coordinator, now⟩ := world.perform_frame effect
    rw [List.foldl_cons, ← mailbox, ← coordinator, ← now]
    exact ih _

/-- The world once some tickets have been cancelled. -/
def cancelled (world : World) (tickets : List Nat) : World :=
  (tickets.map Effect.cancel).foldl perform world

/-- Cancelling takes away the work with the tickets and nothing else. -/
theorem cancelled_eq (world : World) (tickets : List Nat) :
    world.cancelled tickets =
      { world with tasks := world.tasks.filter fun task => decide (task.ticket ∉ tickets) } := by
  induction tickets generalizing world with
  | nil =>
    have all : ∀ task ∈ world.tasks, decide (task.ticket ∉ ([] : List Nat)) = true :=
      fun _ _ => decide_eq_true List.not_mem_nil
    rw [List.filter_eq_self.mpr all]
    rfl
  | cons ticket rest ih =>
    have dropped := ih (world.drop ticket)
    simp only [drop, List.filter_filter] at dropped
    have same : (fun task : Task => decide (task.ticket ∉ rest) && task.ticket != ticket) =
        fun task => decide (task.ticket ∉ ticket :: rest) := by
      funext task
      rw [Bool.eq_iff_iff]
      simp [not_or, and_comm]
    rw [same] at dropped
    exact dropped

theorem tasks_cancelled (world : World) (tickets : List Nat) :
    (world.cancelled tickets).tasks =
      world.tasks.filter fun task => decide (task.ticket ∉ tickets) := by
  rw [cancelled_eq]

theorem mailbox_cancelled (world : World) (tickets : List Nat) :
    (world.cancelled tickets).mailbox = world.mailbox :=
  (foldl_perform_frame _ world).1

end World

/-! ### Tickets -/

/-- The tickets that ending a round gives up. -/
def timers (c : Coordinator) : List Nat :=
  c.countdown.toList ++ c.followUp.toList ++ c.retry.toList

theorem mem_timers {c : Coordinator} {ticket : Nat} :
    ticket ∈ c.timers ↔
      c.countdown = some ticket ∨ c.followUp = some ticket ∨ c.retry = some ticket := by
  simp [timers]

/-- The coordinator knows a piece of work: its ticket has been given out, it belongs to no later
round, and when it is a load of the current round, its ticket is held exactly when it is the retry.
-/
structure Task.Known (c : Coordinator) (task : Task) : Prop where
  ticket : task.ticket < c.nextTicket
  early : ∀ generation, task.isLoadOf generation = true → generation ≤ c.generation
  countdown : task.isLoadOf c.generation = true → c.countdown ≠ some task.ticket
  followUp : task.isLoadOf c.generation = true → c.followUp ≠ some task.ticket
  retry : task.isLoadOf c.generation = true →
    (c.retry = some task.ticket ↔ task.isRetryOf c.generation = true)

namespace Task.Known

variable {c next : Coordinator} {task : Task}

/-- Among the loads of the current round, ending it gives up the retry. -/
theorem mem_timers_iff (known : task.Known c) (load : task.isLoadOf c.generation = true) :
    task.ticket ∈ c.timers ↔ task.isRetryOf c.generation = true := by
  rw [mem_timers, ← known.retry load]
  constructor
  · rintro (countdown | followUp | retry)
    · exact (known.countdown load countdown).elim
    · exact (known.followUp load followUp).elim
    · exact retry
  · exact fun retry => Or.inr (Or.inr retry)

/-- Work that is no load only needs its ticket. -/
theorem of_no_load (ticket : task.ticket < c.nextTicket)
    (other : ∀ generation, task.isLoadOf generation = false) : task.Known c where
  ticket := ticket
  early generation load := by rw [other generation] at load; cases load
  countdown load := by rw [other] at load; cases load
  followUp load := by rw [other] at load; cases load
  retry load := by rw [other] at load; cases load

/-- Work that is no load of the current round stays known whatever the timers are. -/
theorem of_stale (known : task.Known c) (ticket : c.nextTicket ≤ next.nextTicket)
    (generation : c.generation ≤ next.generation)
    (stale : task.isLoadOf next.generation = false) : task.Known next where
  ticket := Nat.lt_of_lt_of_le known.ticket ticket
  early of load := Nat.le_trans (known.early of load) generation
  countdown load := by rw [stale] at load; cases load
  followUp load := by rw [stale] at load; cases load
  retry load := by rw [stale] at load; cases load

/-- Work stays known while the timers stay as they are. -/
theorem congr (known : task.Known c) (ticket : c.nextTicket ≤ next.nextTicket)
    (generation : next.generation = c.generation) (countdown : next.countdown = c.countdown)
    (followUp : next.followUp = c.followUp) (retry : next.retry = c.retry) : task.Known next where
  ticket := Nat.lt_of_lt_of_le known.ticket ticket
  early := by rw [generation]; exact known.early
  countdown := by rw [generation, countdown]; exact known.countdown
  followUp := by rw [generation, followUp]; exact known.followUp
  retry := by rw [generation, retry]; exact known.retry

end Task.Known

/-- Tickets tell the work apart, and the coordinator knows all of it. -/
structure Sound (c : Coordinator) (world : World) : Prop where
  distinct : world.tasks.Pairwise fun first second => first.ticket ≠ second.ticket
  known : ∀ task ∈ world.tasks, task.Known c
  early : ∀ command ∈ world.mailbox, ∀ generation,
    command.isLoadOf generation = true → generation ≤ c.generation
  timers : ∀ ticket ∈ c.timers, ticket < c.nextTicket

namespace Sound

variable {c next : Coordinator} {world later : World}

/-- There are no loads of a round that has not been opened. -/
theorem loads_future (sound : Sound c world) {generation : Nat}
    (future : c.generation < generation) : world.loads generation = 0 := by
  have tasks : world.tasks.countP (Task.isLoadOf generation) = 0 :=
    List.countP_eq_zero.mpr fun task member load =>
      absurd ((sound.known task member).early generation load) (Nat.not_le_of_lt future)
  have mailbox : world.mailbox.countP (Command.isLoadOf generation) = 0 :=
    List.countP_eq_zero.mpr fun command member load =>
      absurd (sound.early command member generation load) (Nat.not_le_of_lt future)
  rw [World.loads, tasks, mailbox]

/-- The next ticket has not been given out. -/
theorem unused (sound : Sound c world) :
    c.countdown ≠ some c.nextTicket ∧ c.followUp ≠ some c.nextTicket ∧
      c.retry ≠ some c.nextTicket := by
  have absent : c.nextTicket ∉ c.timers := fun member =>
    Nat.lt_irrefl _ (sound.timers _ member)
  rwa [mem_timers, not_or, not_or] at absent

/-- A load of the current round that has just been started is known, if its ticket is held exactly
when it is the retry. -/
theorem known_started (sound : Sound c world) {task : Task} (ticket : task.ticket = c.nextTicket)
    (grown : next.nextTicket = c.nextTicket + 1) (generation : next.generation = c.generation)
    (current : ∀ of, task.isLoadOf of = true → of = c.generation)
    (countdown : next.countdown = c.countdown) (followUp : next.followUp = c.followUp)
    (retry : next.retry = some task.ticket ↔ task.isRetryOf c.generation = true) :
    task.Known next := by
  obtain ⟨noCountdown, noFollowUp, _⟩ := sound.unused
  exact
    { ticket := by rw [ticket, grown]; exact Nat.lt_succ_self _
      early := fun of load => Nat.le_of_eq ((current of load).trans generation.symm)
      countdown := fun _ => by rw [countdown, ticket]; exact noCountdown
      followUp := fun _ => by rw [followUp, ticket]; exact noFollowUp
      retry := fun _ => by rw [generation]; exact retry }

/-- Nothing new is under way. -/
theorem kept (sound : Sound c world) (tasks : later.tasks.Sublist world.tasks)
    (mailbox : later.mailbox = world.mailbox) (generation : c.generation ≤ next.generation)
    (known : ∀ task ∈ later.tasks, task.Known c → task.Known next)
    (timers : ∀ ticket ∈ next.timers, ticket < next.nextTicket) : Sound next later where
  distinct := sound.distinct.sublist tasks
  known task member := known task member (sound.known task (tasks.mem member))
  early command member of load := by
    rw [mailbox] at member
    exact Nat.le_trans (sound.early command member of load) generation
  timers := timers

/-- One piece of work, with the next ticket, has been started. -/
theorem spawned (sound : Sound c world) {task : Task} (tasks : later.tasks = world.tasks ++ [task])
    (mailbox : later.mailbox = world.mailbox) (ticket : task.ticket = c.nextTicket)
    (generation : c.generation ≤ next.generation)
    (known : ∀ task ∈ world.tasks, task.Known c → task.Known next) (fresh : task.Known next)
    (timers : ∀ ticket ∈ next.timers, ticket < next.nextTicket) : Sound next later where
  distinct := by
    rw [tasks, List.pairwise_append]
    refine ⟨sound.distinct, List.pairwise_singleton _ _, fun first member second last => ?_⟩
    rw [List.mem_singleton.mp last, ticket]
    exact Nat.ne_of_lt (sound.known first member).ticket
  known other member := by
    rw [tasks] at member
    rcases List.mem_append.mp member with old | new
    · exact known other old (sound.known other old)
    · rw [List.mem_singleton.mp new]
      exact fresh
  early command member of load := by
    rw [mailbox] at member
    exact Nat.le_trans (sound.early command member of load) generation
  timers := timers

theorem cancelled (sound : Sound c world) (tickets : List Nat) :
    Sound c (world.cancelled tickets) := by
  refine sound.kept ?_ (world.mailbox_cancelled tickets) (Nat.le_refl _) (fun _ _ known => known)
    sound.timers
  rw [World.tasks_cancelled]
  exact List.filter_sublist

end Sound

/-- What is still under way after tickets have been cancelled does not have one of them. -/
theorem World.not_mem_of_mem_cancelled {world : World} {tickets : List Nat} {task : Task}
    (member : task ∈ (world.cancelled tickets).tasks) : task.ticket ∉ tickets := by
  rw [tasks_cancelled, List.mem_filter] at member
  exact of_decide_eq_true member.2

/-! ### Moves keep the tickets in order -/

variable {timings : Timings} {watch : Watch} {c next : Coordinator}

/-- No timer is set with a ticket that has not been given out. -/
theorem Move.timers_lt {arrival : Bool} {effects : List Effect}
    (move : Move timings watch arrival c effects next)
    (given : ∀ ticket ∈ c.timers, ticket < c.nextTicket) :
    ∀ ticket ∈ next.timers, ticket < next.nextTicket := by
  have grown : ∀ ticket ∈ c.timers, ticket < c.nextTicket + 1 := fun ticket member =>
    Nat.lt_succ_of_lt (given ticket member)
  cases move with
  | opening player resting =>
    intro ticket member
    rcases mem_timers.mp member with countdown | followUp | retry
    · cases countdown
      exact Nat.lt_succ_self _
    · cases followUp
    · cases retry
  | closing running present fresh =>
    intro ticket member
    cases member
  | scheduling running =>
    intro ticket member
    rcases mem_timers.mp member with countdown | followUp | retry
    · exact grown ticket (mem_timers.mpr (Or.inl countdown))
    · cases followUp
      exact Nat.lt_succ_self _
    · exact grown ticket (mem_timers.mpr (Or.inr (Or.inr retry)))
  | following =>
    intro ticket member
    rcases mem_timers.mp member with countdown | followUp | retry
    · exact given ticket (mem_timers.mpr (Or.inl countdown))
    · cases followUp
    · exact given ticket (mem_timers.mpr (Or.inr (Or.inr retry)))
  | postponing running active =>
    intro ticket member
    rcases mem_timers.mp member with countdown | followUp | retry
    · exact grown ticket (mem_timers.mpr (Or.inl countdown))
    · exact grown ticket (mem_timers.mpr (Or.inr (Or.inl followUp)))
    · cases retry
      exact Nat.lt_succ_self _
  | resuming =>
    intro ticket member
    rcases mem_timers.mp member with countdown | followUp | retry
    · exact given ticket (mem_timers.mpr (Or.inl countdown))
    · exact given ticket (mem_timers.mpr (Or.inr (Or.inl followUp)))
    · cases retry
  | fetching number running free active => exact grown
  | grading value running present shown active => exact given
  | ticking remaining running => exact given
  | displaying puzzle running present active => exact given
  | discarding late => exact given

/-- **Every move keeps the state sound**; one that takes a load in needs that there is no other. -/
theorem Move.sound {arrival : Bool} {effects : List Effect} {world : World}
    (move : Move timings watch arrival c effects next) (sound : Sound c world)
    (alone : arrival = true → world.loads c.generation = 0) :
    Sound next (effects.foldl World.perform world) := by
  have idle : arrival = true → ∀ task ∈ world.tasks, task.isLoadOf c.generation = false := by
    intro arrived task member
    have none := Nat.eq_zero_of_add_eq_zero_right (alone arrived)
    exact eq_false_of_ne_true (List.countP_eq_zero.mp none task member)
  have timers := move.timers_lt sound.timers
  cases move with
  | opening player resting =>
    rw [List.foldl_append]
    refine (sound.cancelled c.timers).spawned rfl rfl rfl (Nat.le_succ _) ?_ ?_ timers
    · intro task _ known
      -- What is still under way belongs to earlier rounds.
      refine known.of_stale (Nat.le_succ _) (Nat.le_succ _) (eq_false_of_ne_true fun load => ?_)
      exact absurd (known.early _ load) (Nat.not_succ_le_self _)
    · exact .of_no_load (Nat.lt_succ_self _) fun _ => rfl
  | closing running present fresh =>
    rw [List.foldl_append]
    refine (sound.cancelled c.timers).kept (List.Sublist.refl _) rfl (Nat.le_refl _) ?_ timers
    intro task member known
    have left : task.ticket ∉ c.timers := World.not_mem_of_mem_cancelled member
    -- The handle of the retry is gone, and so is the retry: its ticket has been cancelled.
    exact
      { ticket := known.ticket
        early := known.early
        countdown := fun _ impossible => by cases impossible
        followUp := fun _ impossible => by cases impossible
        retry := fun load =>
          ⟨fun impossible => (by cases impossible),
            fun retry => absurd ((known.mem_timers_iff load).mpr retry) left⟩ }
  | fetching number running free active =>
    refine sound.spawned rfl rfl rfl (Nat.le_refl _) ?_ ?_ timers
    · exact fun task _ known => known.congr (Nat.le_succ _) rfl rfl rfl rfl
    · refine sound.known_started rfl rfl rfl (fun of load => (beq_iff_eq.mp load).symm) rfl rfl ?_
      exact ⟨fun held => absurd held sound.unused.2.2, fun retry => by cases retry⟩
  | grading value running present shown active =>
    exact sound.kept (List.Sublist.refl _) rfl (Nat.le_refl _)
      (fun _ _ known => known.congr (Nat.le_refl _) rfl rfl rfl rfl) timers
  | scheduling running =>
    rw [scheduleFollowUp, List.foldl_append]
    refine (sound.cancelled c.followUp.toList).spawned rfl rfl rfl (Nat.le_refl _) ?_ ?_ timers
    · intro task _ known
      exact
        { ticket := Nat.lt_succ_of_lt known.ticket
          early := known.early
          countdown := known.countdown
          followUp := fun _ held => absurd (Option.some.inj held) (Nat.ne_of_gt known.ticket)
          retry := known.retry }
    · exact .of_no_load (Nat.lt_succ_self _) fun _ => rfl
  | following =>
    refine sound.kept (List.Sublist.refl _) rfl (Nat.le_refl _) ?_ timers
    intro task _ known
    exact { known with followUp := fun _ impossible => by cases impossible }
  | ticking remaining running =>
    exact sound.kept (List.Sublist.refl _) rfl (Nat.le_refl _) (fun _ _ known => known) timers
  | displaying puzzle running present active =>
    exact sound.kept (List.Sublist.refl _) rfl (Nat.le_refl _)
      (fun _ _ known => known.congr (Nat.le_refl _) rfl rfl rfl rfl) timers
  | postponing running active =>
    refine sound.spawned rfl rfl rfl (Nat.le_refl _) ?_ ?_ timers
    · exact fun task member known =>
        known.of_stale (Nat.le_succ _) (Nat.le_refl _) (idle rfl task member)
    · refine sound.known_started rfl rfl rfl (fun of load => (beq_iff_eq.mp load).symm) rfl rfl ?_
      exact ⟨fun _ => beq_self_eq_true _, fun _ => rfl⟩
  | discarding late =>
    exact sound.kept (List.Sublist.refl _) rfl (Nat.le_refl _)
      (fun _ _ known => known.congr (Nat.le_refl _) rfl rfl rfl rfl) timers
  | resuming =>
    exact sound.kept (List.Sublist.refl _) rfl (Nat.le_refl _)
      (fun task member known =>
        known.of_stale (Nat.le_refl _) (Nat.le_refl _) (idle rfl task member)) timers

/-! ### Work coming due -/

namespace World

/-- Work that comes due does not involve the coordinator. -/
theorem fire_frame (timings : Timings) (world : World) (task : Task) (outcome : Option Puzzle) :
    (world.fire timings task outcome).coordinator = world.coordinator ∧
      (world.fire timings task outcome).now = world.now := by
  unfold fire
  split
  · exact ⟨rfl, rfl⟩
  · exact ⟨rfl, rfl⟩
  · dsimp only
    split <;> exact ⟨rfl, rfl⟩

/-- How much of a kind is outstanding: the work under way that is of the kind, and the commands that
such work has sent. -/
def outstanding (world : World) (work : Task → Bool) (news : Command → Bool) : Nat :=
  world.tasks.countP work + world.mailbox.countP news

theorem outstanding_post (world : World) (command : Command) (work : Task → Bool)
    (news : Command → Bool) :
    (world.post command).outstanding work news =
      world.outstanding work news + (news command).toNat := by
  rw [outstanding, post, List.countP_append, List.countP_singleton, ← Nat.add_assoc, outstanding]
  cases news command <;> rfl

theorem loads_post (world : World) (command : Command) (generation : Nat) :
    (world.post command).loads generation =
      world.loads generation + (command.isLoadOf generation).toNat :=
  outstanding_post world command _ _

end World

namespace Sound

variable {world : World}

/-- A ticket belongs to one piece of work. -/
theorem eq_of_ticket (sound : Sound c world) {task other : Task} (member : task ∈ world.tasks)
    (among : other ∈ world.tasks) (same : other.ticket = task.ticket) : other = task := by
  have nodup : (world.tasks.map Task.ticket).Nodup := List.pairwise_map.mpr sound.distinct
  exact List.inj_on_of_nodup_map nodup among member same

theorem post (sound : Sound c world) (command : Command)
    (early : ∀ generation, command.isLoadOf generation = true → generation ≤ c.generation) :
    Sound c (world.post command) where
  distinct := sound.distinct
  known := sound.known
  early other member := by
    rcases List.mem_append.mp member with old | new
    · exact sound.early other old
    · rw [List.mem_singleton.mp new]
      exact early
  timers := sound.timers

theorem drop (sound : Sound c world) (ticket : Nat) : Sound c (world.drop ticket) :=
  sound.kept List.filter_sublist rfl (Nat.le_refl _) (fun _ _ known => known) sound.timers

/-- Dropping a piece of work takes away this piece and no other. -/
theorem perm_drop (sound : Sound c world) {task : Task} (member : task ∈ world.tasks) :
    world.tasks.Perm (task :: (world.drop task.ticket).tasks) := by
  have others : world.tasks.filter (fun other => other.ticket != task.ticket) =
      world.tasks.erase task := by
    rw [List.Nodup.erase_eq_filter (sound.distinct.imp fun apart same => apart (congrArg _ same))]
    refine List.filter_congr fun other among => ?_
    rw [Bool.eq_iff_iff, bne_iff_ne, bne_iff_ne]
    exact not_congr ⟨sound.eq_of_ticket member among, congrArg Task.ticket⟩
  rw [World.drop, others]
  exact List.perm_cons_erase member

/-- Work that is dropped is no longer counted. -/
theorem countP_drop (sound : Sound c world) {task : Task} (member : task ∈ world.tasks)
    (counted : Task → Bool) :
    (world.drop task.ticket).tasks.countP counted + (counted task).toNat =
      world.tasks.countP counted := by
  rw [(sound.perm_drop member).countP_eq, List.countP_cons]
  cases counted task <;> rfl

/-- A countdown that will look again is as little a load as before. -/
theorem replace (sound : Sound c world) {task : Task} (member : task ∈ world.tasks) {job : Job}
    (idle : ∀ generation, (Task.mk task.ticket world.now job).isLoadOf generation = false) :
    Sound c (world.replace task.ticket job) where
  distinct := by
    have kept (other : Task) : (if other.ticket = task.ticket then
        Task.mk task.ticket world.now job else other).ticket = other.ticket := by
      split
      · rename_i same
        exact same.symm
      · rfl
    refine List.pairwise_map.mpr (sound.distinct.imp fun apart => ?_)
    rwa [kept, kept]
  known later among := by
    obtain ⟨earlier, before, rfl⟩ := List.mem_map.mp among
    split
    · exact .of_no_load (sound.known task member).ticket idle
    · exact sound.known earlier before
  early := sound.early
  timers := sound.timers

/-- Work that is not counted, neither before nor after, makes no difference. -/
theorem countP_replace (sound : Sound c world) {task : Task} (member : task ∈ world.tasks)
    {job : Job} {counted : Task → Bool} (before : counted task = false)
    (after : counted (Task.mk task.ticket world.now job) = false) :
    (world.replace task.ticket job).tasks.countP counted = world.tasks.countP counted := by
  rw [World.replace, List.countP_map]
  refine List.countP_congr fun earlier among => ?_
  rw [Function.comp_apply]
  split
  · rename_i same
    rw [sound.eq_of_ticket member among same, before, after]
  · rfl

/-- Work that is done has sent a command, which is no load of a later round if the work was none. -/
theorem sent (sound : Sound c world) {task : Task} (member : task ∈ world.tasks) (command : Command)
    (same : ∀ generation, command.isLoadOf generation = task.isLoadOf generation) :
    Sound c ((world.drop task.ticket).post command) :=
  (sound.drop task.ticket).post command fun generation load => by
    rw [same] at load
    exact (sound.known task member).early generation load

/-- **Work that comes due keeps the state sound.** -/
theorem fire (sound : Sound c world) (timings : Timings) {task : Task} (member : task ∈ world.tasks)
    (outcome : Option Puzzle) : Sound c (world.fire timings task outcome) := by
  obtain ⟨ticket, since, job⟩ := task
  cases job with
  | fetch of call => exact sound.sent member (.fetched of outcome) fun _ => rfl
  | reminder due command => exact sound.sent member command fun _ => rfl
  | countDown of clock due =>
    have told := sound.post (.tick of (clock.remaining world.now))
      fun _ impossible => by cases impossible
    simp only [World.fire]
    split
    · exact told.sent member (.expired of) fun _ => rfl
    · exact told.replace member fun _ => rfl

end Sound

/-! ### What is outstanding -/

/-- Work of a kind sends news of the kind when it comes due, and no other work does. A countdown is
not of the kind. -/
structure Sends (work : Task → Bool) (news : Command → Bool) : Prop where
  fetch : ∀ ticket since of call outcome,
    work ⟨ticket, since, .fetch of call⟩ = news (.fetched of outcome)
  reminder : ∀ ticket since due command, work ⟨ticket, since, .reminder due command⟩ = news command
  countDown : ∀ ticket since of clock due, work ⟨ticket, since, .countDown of clock due⟩ = false
  tick : ∀ of remaining, news (.tick of remaining) = false
  expired : ∀ of, news (.expired of) = false

/-- Loads send loads. -/
theorem sends_loads (generation : Nat) :
    Sends (Task.isLoadOf generation) (Command.isLoadOf generation) where
  fetch _ _ _ _ _ := rfl
  reminder _ _ _ _ := rfl
  countDown _ _ _ _ _ := rfl
  tick _ _ := rfl
  expired _ := rfl

namespace Sound

variable {world : World} {work : Task → Bool} {news : Command → Bool}

/-- When work is done, the command that it sends takes its place. -/
theorem outstanding_sent (sound : Sound c world) {task : Task} (member : task ∈ world.tasks)
    {command : Command} (same : work task = news command) :
    ((world.drop task.ticket).post command).outstanding work news =
      world.outstanding work news := by
  rw [World.outstanding_post, World.outstanding, World.outstanding,
    ← sound.countP_drop member work, same]
  exact Nat.add_right_comm _ _ _

/-- **Work that comes due loses nothing that is outstanding and adds nothing to it.** -/
theorem outstanding_fire (sound : Sound c world) (sends : Sends work news) (timings : Timings)
    {task : Task} (member : task ∈ world.tasks) (outcome : Option Puzzle) :
    (world.fire timings task outcome).outstanding work news = world.outstanding work news := by
  obtain ⟨ticket, since, job⟩ := task
  cases job with
  | fetch of call => exact sound.outstanding_sent member (sends.fetch ..)
  | reminder due command => exact sound.outstanding_sent member (sends.reminder ..)
  | countDown of clock due =>
    have told := sound.post (.tick of (clock.remaining world.now))
      fun _ impossible => by cases impossible
    have same : (world.post (.tick of (clock.remaining world.now))).outstanding work news =
        world.outstanding work news := by
      rw [World.outstanding_post, sends.tick]
      rfl
    rw [← same]
    simp only [World.fire]
    split
    · exact told.outstanding_sent member ((sends.countDown ..).trans (sends.expired of).symm)
    · exact congrArg (· + _)
        (told.countP_replace member (sends.countDown ..) (sends.countDown ..))

end Sound
end TimedQuiz.Coordinator
