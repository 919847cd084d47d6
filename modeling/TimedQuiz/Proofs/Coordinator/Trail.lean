/-
**What a run of the world has heard and said, and what it leaves behind.**

* `World.exchanges`: the commands that a run has handled, each with its answer, what was announced
  with it, and when.
* `World.log_run`: the log is what the exchanges announced.
* `handle_kinds`: which events a command can bring.
* `generation_of_run`: rounds are numbered in the order in which they are started.
* `dated_of_run`: work under way and commands not yet handled belong to rounds that have been
  opened, and work under way makes no requests.
-/

import TimedQuiz.Proofs.Coordinator.Loading
import TimedQuiz.Proofs.Timeline

namespace TimedQuiz.Coordinator

variable {timings : Timings}

/-! ### Exchanges -/

namespace World

/-- What is announced is logged with the time, and nothing else is. -/
theorem log_foldl_perform (effects : List Effect) (world : World) :
    (effects.foldl perform world).log =
      world.log ++ (published effects).map (world.now, ·) := by
  induction effects generalizing world with
  | nil => exact (List.append_nil _).symm
  | cons effect rest ih =>
    have now : (world.perform effect).now = world.now := (world.perform_frame effect).2.2
    have log : (world.perform effect).log =
        world.log ++ effect.event?.toList.map (world.now, ·) := by
      cases effect with
      | publish event => rfl
      | _ => exact (List.append_nil _).symm
    rw [List.foldl_cons, ih, log, now, published_cons, List.map_append, List.append_assoc]

/-- The exchange of a step, and its time: the first waiting command is handled, if there is one. -/
def exchange? (timings : Timings) (world : World) : Step → Option (Span × Exchange)
  | .deliver pauses =>
    let watch : Watch := { start := world.now, pauses }
    world.mailbox.head?.map fun command =>
      (watch.stop, world.coordinator.exchange timings (watch, command))
  | _ => none

/-- The exchanges of a run. -/
def exchanges (timings : Timings) (world : World) : List Step → List (Span × Exchange)
  | [] => []
  | step :: rest =>
    (world.exchange? timings step).toList ++ (world.step timings step).exchanges timings rest

/-- What some exchanges announced. -/
def told (handled : List (Span × Exchange)) : List (Span × Event) :=
  handled.flatMap fun exchange => exchange.2.events.map (exchange.1, ·)

theorem exchanges_concat (world : World) (steps : List Step) (step : Step) :
    world.exchanges timings (steps ++ [step]) =
      world.exchanges timings steps ++
        ((world.run timings steps).exchange? timings step).toList := by
  induction steps generalizing world with
  | nil => exact List.append_nil _
  | cons first rest ih =>
    rw [List.cons_append, exchanges, exchanges, ih, List.append_assoc]
    rfl

/-- Work that comes due announces nothing itself. -/
theorem log_fire (timings : Timings) (world : World) (task : Task) (outcome : Option Puzzle) :
    (world.fire timings task outcome).log = world.log := by
  unfold fire
  split
  · rfl
  · rfl
  · dsimp only
    split <;> rfl

/-- A step logs what its exchange announced. -/
theorem log_step (world : World) (step : Step) :
    (world.step timings step).log =
      world.log ++ told (world.exchange? timings step).toList := by
  cases step with
  | ask request => exact (List.append_nil _).symm
  | wait span => exact (List.append_nil _).symm
  | fire ticket outcome =>
    have same : (world.step timings (.fire ticket outcome)).log = world.log := by
      rw [World.step]
      split
      · exact log_fire timings world _ outcome
      · rfl
    rw [same]
    exact (List.append_nil _).symm
  | deliver pauses =>
    simp only [World.step, deliver, exchange?]
    split
    · rename_i waiting
      rw [waiting]
      exact (List.append_nil _).symm
    · rename_i command rest waiting
      rw [waiting, handleSlowly, log_foldl_perform]
      exact congrArg (world.log ++ ·) (List.append_nil _).symm

theorem log_run (timings : Timings) (world : World) (steps : List Step) :
    (world.run timings steps).log = world.log ++ told (world.exchanges timings steps) := by
  induction steps using List.reverseRecOn with
  | nil => exact (List.append_nil _).symm
  | append_singleton steps step ih =>
    rw [run_concat, log_step, ih, exchanges_concat, told, told, told, List.flatMap_append,
      List.append_assoc]

/-- Everything that a run from the beginning has logged was announced by its exchanges. -/
theorem told_exchanges (timings : Timings) (steps : List Step) :
    told (exchanges timings {} steps) = (run timings {} steps).log :=
  (log_run timings {} steps).symm

end World

/-! ### What a command announces -/

/-- The kinds of events that are announced while a command is handled. -/
def Command.kinds : Command → List Event.Kind
  | start _ => [.roundStarted, .roundEnded]
  | submit _ => [.answerGraded, .scoreChanged, .roundEnded]
  | look => []
  | fetched _ _ => [.puzzleLoaded]
  | tick _ _ => [.tick]
  | _ => [.roundEnded]

section Kinds

variable {watch : Watch} {c : Coordinator} {event : Event}

theorem finish_kind (told : event ∈ published c.finish.2.2) : event.kind = .roundEnded := by
  unfold finish at told
  split at told
  · rw [published_append, published_cancelTimers, List.nil_append] at told
    rw [List.mem_singleton.mp told]
    rfl
  · cases told

theorem requestNext_kind {now : Span} (told : event ∈ published (c.requestNext now).2.2) :
    event.kind = .roundEnded := by
  unfold requestNext at told
  split at told
  · cases told
  · split at told
    · cases told
    · split at told
      · cases told
      · exact finish_kind told

/-- A start announces nothing when it is refused; otherwise the round is announced first, and no
other is opened. -/
theorem published_start (timings : Timings) (watch : Watch) (c : Coordinator) (player : Player) :
    published (c.start timings watch player).2.2 = [] ∨
      ∃ rest, published (c.start timings watch player).2.2 = .roundStarted player :: rest ∧
        ∀ event ∈ rest, event.kind = .roundEnded := by
  unfold start
  split
  · exact Or.inl rfl
  · right
    simp only [published_append, published_cancelTimers, List.nil_append]
    exact ⟨_, rfl, fun event told => requestNext_kind told⟩

theorem submit_kind {before during : Span} {value : Int}
    (told : event ∈ published (c.submit timings before during value).2.2) :
    event.kind ∈ [Event.Kind.answerGraded, .scoreChanged, .roundEnded] := by
  unfold submit at told
  split at told
  · split at told
    · cases told
    · rw [published_append, published_scheduleFollowUp, List.append_nil] at told
      rcases List.mem_cons.mp told with rfl | changed
      · exact List.mem_cons_self
      · rw [List.mem_singleton.mp changed]
        exact List.mem_cons_of_mem _ List.mem_cons_self
  · rw [finish_kind told]
    exact List.mem_cons_of_mem _ (List.mem_cons_of_mem _ List.mem_cons_self)

theorem fetched_kind {now : Span} {of : Nat} {outcome : Option Puzzle}
    (told : event ∈ published (c.fetched timings now of outcome).2) :
    event.kind = .puzzleLoaded := by
  unfold fetched at told
  split at told
  · cases told
  · split at told
    · cases outcome with
      | some puzzle =>
        rw [List.mem_singleton.mp told]
        rfl
      | none => cases told
    · cases told

/-- **Who announces what.** -/
theorem handle_kinds {command : Command}
    (told : event ∈ published (c.handle timings watch command).2.2) :
    event.kind ∈ command.kinds := by
  cases command with
  | start player =>
    rcases published_start timings watch c player with nothing | ⟨rest, started, later⟩
    · rw [handle, nothing] at told
      cases told
    · rw [handle, started] at told
      rcases List.mem_cons.mp told with rfl | after
      · exact List.mem_cons_self
      · rw [later event after]
        exact List.mem_cons_of_mem _ List.mem_cons_self
  | submit value => exact submit_kind told
  | next => exact List.mem_singleton.mpr (requestNext_kind told)
  | finish => exact List.mem_singleton.mpr (finish_kind told)
  | look => cases told
  | fetched of outcome => exact List.mem_singleton.mpr (fetched_kind told)
  | retryDue of =>
    simp only [handle] at told
    split at told
    · exact List.mem_singleton.mpr (requestNext_kind told)
    · cases told
  | followUpDue of sequence =>
    simp only [handle] at told
    split at told
    · exact List.mem_singleton.mpr (requestNext_kind told)
    · cases told
  | tick of remaining =>
    simp only [handle] at told
    split at told
    · rw [List.mem_singleton.mp told]
      exact List.mem_cons_self
    · cases told
  | expired of =>
    simp only [handle] at told
    split at told
    · exact List.mem_singleton.mpr (finish_kind told)
    · cases told

/-- A round is opened only by its start, and before anything else is announced. -/
theorem handle_opens (timings : Timings) (watch : Watch) (c : Coordinator) (command : Command) :
    (∀ event ∈ published (c.handle timings watch command).2.2, event.starter? = none) ∨
      ∃ player rest, command = .start player ∧
        published (c.handle timings watch command).2.2 = .roundStarted player :: rest ∧
        ∀ event ∈ rest, event.starter? = none := by
  cases command with
  | start player =>
    rcases published_start timings watch c player with nothing | ⟨rest, started, ended⟩
    · left
      rw [handle, nothing]
      exact fun event impossible => by cases impossible
    · refine Or.inr ⟨player, rest, rfl, started, fun event told => ?_⟩
      refine Event.starter?_eq_none ?_
      rw [ended event told]
      exact Event.Kind.noConfusion
  | _ =>
    refine Or.inl fun event told => Event.starter?_eq_none fun starts => ?_
    have kind := handle_kinds told
    rw [starts] at kind
    simp [Command.kinds] at kind

end Kinds

/-! ### Rounds are numbered in order -/

theorem Move.generation_eq {watch : Watch} {arrival : Bool} {c next : Coordinator}
    {effects : List Effect} (move : Move timings watch arrival c effects next) :
    next.generation =
      c.generation + (published effects).countP fun event => event.starter?.isSome := by
  cases move with
  | opening player resting =>
    rw [published_append, published_cancelTimers]
    rfl
  | closing running present fresh =>
    rw [published_append, published_cancelTimers]
    rfl
  | scheduling running =>
    rw [published_scheduleFollowUp]
    rfl
  | _ => rfl

theorem handle_generation_eq {watch : Watch} {c : Coordinator} (command : Command) :
    (c.handle timings watch command).2.1.generation = c.generation +
      (published (c.handle timings watch command).2.2).countP fun event =>
        event.starter?.isSome := by
  refine handle_holds (fun next done => next.generation = c.generation +
    (published done).countP fun event => event.starter?.isSome) ?_ command rfl
  intro arrival middle next done effects move before
  rw [move.generation_eq, before, published_append, List.countP_append, Nat.add_assoc]

/-- **The number of the current round is the number of rounds started so far.** -/
theorem generation_of_run (timings : Timings) (steps : List World.Step) :
    (World.run timings {} steps).coordinator.generation =
      Timeline.started (World.run timings {} steps).log := by
  induction steps using List.reverseRecOn with
  | nil => rfl
  | append_singleton steps step ih =>
    rw [World.run_concat]
    generalize World.run timings {} steps = world at ih ⊢
    cases step with
    | ask request => exact ih
    | wait span => exact ih
    | fire ticket outcome =>
      have log : (world.step timings (.fire ticket outcome)).log = world.log :=
        (world.log_step (.fire ticket outcome)).trans (List.append_nil _)
      rw [log, ← ih, World.step]
      split
      · exact congrArg generation (World.fire_frame timings world _ outcome).1
      · rfl
    | deliver pauses =>
      simp only [World.step, World.deliver]
      split
      · exact ih
      · rename_i command rest waiting
        rw [World.handleSlowly, (World.foldl_perform_frame _ _).2.1, World.log_foldl_perform,
          Timeline.started, List.countP_append, List.countP_map]
        exact (handle_generation_eq command).trans (congrArg (· + _) ih)

/-! ### Work and commands of earlier rounds -/

/-- The round that a command belongs to. Requests belong to none. -/
def Command.round? : Command → Option Nat
  | fetched of _ => some of
  | retryDue of => some of
  | followUpDue of _ => some of
  | tick of _ => some of
  | expired of => some of
  | _ => none

/-- The command is a request from outside. -/
def Command.isRequest (command : Command) : Bool := command.round?.isNone

/-- The command belongs to one of some rounds, if it belongs to any. -/
def Command.BelongsTo (rounds : Nat → Prop) (command : Command) : Prop :=
  ∀ of, command.round? = some of → rounds of

/-- The work belongs to one of some rounds, and it makes no request. -/
def Job.BelongsTo (rounds : Nat → Prop) : Job → Prop
  | .fetch of _ => rounds of
  | .countDown of _ _ => rounds of
  | .reminder _ (.retryDue of) => rounds of
  | .reminder _ (.followUpDue of _) => rounds of
  | .reminder _ _ => False

/-- All work and all waiting commands belong to some rounds. -/
structure World.BelongsTo (rounds : Nat → Prop) (world : World) : Prop where
  tasks : ∀ task ∈ world.tasks, task.job.BelongsTo rounds
  mailbox : ∀ command ∈ world.mailbox, command.BelongsTo rounds

theorem Job.BelongsTo.mono {few many : Nat → Prop} {job : Job} (belongs : job.BelongsTo few)
    (among : ∀ of, few of → many of) : job.BelongsTo many := by
  cases job with
  | fetch of call => exact among of belongs
  | countDown of clock due => exact among of belongs
  | reminder due command =>
    cases command with
    | retryDue of => exact among of belongs
    | followUpDue of sequence => exact among of belongs
    | _ => exact belongs

theorem Request.belongsTo (request : Request) (rounds : Nat → Prop) :
    request.command.BelongsTo rounds := fun of belongs => by
  cases request <;> cases belongs

namespace World.BelongsTo

variable {rounds few many : Nat → Prop} {world : World}

theorem initial : BelongsTo rounds {} where
  tasks _ impossible := by cases impossible
  mailbox _ impossible := by cases impossible

theorem mono (belongs : BelongsTo few world) (among : ∀ of, few of → many of) :
    BelongsTo many world where
  tasks task member := (belongs.tasks task member).mono among
  mailbox command member of same := among of (belongs.mailbox command member of same)

theorem post (belongs : BelongsTo rounds world) (command : Command)
    (own : command.BelongsTo rounds) : BelongsTo rounds (world.post command) where
  tasks := belongs.tasks
  mailbox other member := by
    rcases List.mem_append.mp member with old | new
    · exact belongs.mailbox other old
    · rw [List.mem_singleton.mp new]
      exact own

theorem spawn (belongs : BelongsTo rounds world) (ticket : Nat) (job : Job)
    (own : job.BelongsTo rounds) : BelongsTo rounds (world.spawn ticket job) where
  tasks task member := by
    rcases List.mem_append.mp member with old | new
    · exact belongs.tasks task old
    · rw [List.mem_singleton.mp new]
      exact own
  mailbox := belongs.mailbox

theorem drop (belongs : BelongsTo rounds world) (ticket : Nat) :
    BelongsTo rounds (world.drop ticket) where
  tasks task member := belongs.tasks task (List.mem_filter.mp member).1
  mailbox := belongs.mailbox

theorem cancelled (belongs : BelongsTo rounds world) (tickets : List Nat) :
    BelongsTo rounds (world.cancelled tickets) where
  tasks task member := by
    rw [tasks_cancelled] at member
    exact belongs.tasks task (List.mem_filter.mp member).1
  mailbox := by
    rw [mailbox_cancelled]
    exact belongs.mailbox

theorem replace (belongs : BelongsTo rounds world) (ticket : Nat) {job : Job}
    (own : job.BelongsTo rounds) : BelongsTo rounds (world.replace ticket job) where
  tasks task member := by
    obtain ⟨before, among, rfl⟩ := List.mem_map.mp member
    split
    · exact own
    · exact belongs.tasks before among
  mailbox := belongs.mailbox

/-- What work that comes due sends belongs to the round of the work. -/
theorem fire (belongs : BelongsTo rounds world) (timings : Timings) {task : Task}
    (own : task.job.BelongsTo rounds) (outcome : Option Puzzle) :
    BelongsTo rounds (world.fire timings task outcome) := by
  obtain ⟨ticket, since, job⟩ := task
  cases job with
  | fetch of call =>
    exact (belongs.drop ticket).post (.fetched of outcome) fun _ same => Option.some.inj same ▸ own
  | countDown of clock due =>
    have told := belongs.post (.tick of (clock.remaining world.now)) fun _ same =>
      Option.some.inj same ▸ own
    simp only [World.fire]
    split
    · exact (told.drop ticket).post (.expired of) fun _ same => Option.some.inj same ▸ own
    · exact told.replace ticket own
  | reminder due command =>
    refine (belongs.drop ticket).post command fun of same => ?_
    cases command with
    | retryDue _ => exact Option.some.inj same ▸ own
    | followUpDue _ _ => exact Option.some.inj same ▸ own
    | _ => exact own.elim

end World.BelongsTo

/-- **Every move starts work of the current round only**, and only while that is running. -/
theorem Move.belongsTo {watch : Watch} {arrival : Bool} {c next : Coordinator}
    {effects : List Effect} {rounds : Nat → Prop} {world : World}
    (move : Move timings watch arrival c effects next) (belongs : world.BelongsTo rounds)
    (current : next.phase = .running → rounds next.generation) :
    (effects.foldl World.perform world).BelongsTo rounds := by
  cases move with
  | opening player resting =>
    rw [List.foldl_append]
    have left := belongs.cancelled c.timers
    have told : World.BelongsTo rounds
        ((world.cancelled c.timers).perform (.publish (.roundStarted player))) :=
      ⟨left.tasks, left.mailbox⟩
    exact told.spawn c.nextTicket (.countDown (c.generation + 1) _ _) (current rfl)
  | closing running present fresh =>
    rw [List.foldl_append]
    have left := belongs.cancelled c.timers
    exact ⟨left.tasks, left.mailbox⟩
  | fetching number running free active =>
    have begun := belongs.spawn c.nextTicket (.fetch c.generation world.calls.length)
      (current running)
    exact ⟨begun.tasks, begun.mailbox⟩
  | scheduling running =>
    rw [scheduleFollowUp, List.foldl_append]
    exact (belongs.cancelled c.followUp.toList).spawn c.nextTicket
      (.reminder _ (.followUpDue c.generation _)) (current running)
  | postponing running active =>
    exact belongs.spawn c.nextTicket (.reminder _ (.retryDue c.generation)) (current running)
  | grading value running present shown active => exact ⟨belongs.tasks, belongs.mailbox⟩
  | ticking remaining running => exact ⟨belongs.tasks, belongs.mailbox⟩
  | displaying puzzle running present active => exact ⟨belongs.tasks, belongs.mailbox⟩
  | following => exact belongs
  | discarding late => exact belongs
  | resuming => exact belongs

/-- All work and all waiting commands belong to rounds that have been opened. -/
structure Dated (c : Coordinator) (world : World) : Prop where
  running : c.phase = .running → 0 < c.generation
  belongs : world.BelongsTo fun of => 0 < of ∧ of ≤ c.generation

theorem Move.dated {watch : Watch} {arrival : Bool} {c next : Coordinator} {effects : List Effect}
    {world : World} (move : Move timings watch arrival c effects next) (dated : Dated c world) :
    Dated next (effects.foldl World.perform world) := by
  have running : next.phase = .running → 0 < next.generation := by
    cases move with
    | opening => exact fun _ => Nat.succ_pos _
    | closing => exact fun impossible => Phase.noConfusion impossible
    | _ => exact dated.running
  have grown := dated.belongs.mono fun _ opened =>
    And.imp_right (Nat.le_trans · move.generation_le) opened
  exact ⟨running, move.belongsTo grown fun goes => ⟨running goes, Nat.le_refl _⟩⟩

theorem handle_dated {watch : Watch} {c : Coordinator} {world : World} (command : Command)
    (dated : Dated c world) :
    Dated (c.handle timings watch command).2.1
      ((c.handle timings watch command).2.2.foldl World.perform world) := by
  refine handle_holds (fun next done => Dated next (done.foldl World.perform world)) ?_
    command dated
  intro arrival c next done effects move before
  rw [List.foldl_append]
  exact move.dated before

theorem Dated.step {world : World} (dated : Dated world.coordinator world) (step : World.Step) :
    Dated (world.step timings step).coordinator (world.step timings step) := by
  cases step with
  | ask request => exact ⟨dated.running, dated.belongs.post _ (request.belongsTo _)⟩
  | wait span => exact ⟨dated.running, dated.belongs.tasks, dated.belongs.mailbox⟩
  | fire ticket outcome =>
    rw [World.step]
    split
    · rename_i task found
      rw [(World.fire_frame timings world task outcome).1]
      have own := dated.belongs.tasks task (List.mem_of_find?_eq_some found)
      exact ⟨dated.running, dated.belongs.fire timings own outcome⟩
    · exact dated
  | deliver pauses =>
    rw [World.step, World.deliver]
    split
    · exact dated
    · rename_i command rest waiting
      rw [World.handleSlowly, (World.foldl_perform_frame _ _).2.1]
      refine handle_dated command
        ⟨dated.running, dated.belongs.tasks, fun other member => dated.belongs.mailbox other ?_⟩
      rw [waiting]
      exact List.mem_cons_of_mem _ member

/-- **Whatever a run leaves under way or waiting belongs to rounds that have been opened.** -/
theorem dated_of_run (timings : Timings) (steps : List World.Step) :
    Dated (World.run timings {} steps).coordinator (World.run timings {} steps) := by
  induction steps using List.reverseRecOn with
  | nil => exact ⟨fun impossible => Phase.noConfusion impossible, .initial⟩
  | append_singleton steps step ih =>
    rw [World.run_concat]
    exact ih.step step

end TimedQuiz.Coordinator
