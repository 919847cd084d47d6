/-
**Refused and late commands change nothing.**

Some handlers act before they refuse: an answer that comes too late asks for the end of the round
first, and a start moves the phase before it gives up the timers. All the same:

* `Refused`: an answer that refuses its command, or a command that comes too late to be heard.
* `request_refused_or_felt`: a request is refused and leaves everything as it is, or it is not
  refused and changes the coordinator.
* `handle_of_refused`: a command that comes too late leaves everything as it is, too.
* `unchanged_of_refused`: so in every state that a run reaches nothing at all is touched, neither
  the coordinator nor the work under way nor the log, and a start is refused exactly while a round
  is running.
-/

import TimedQuiz.Proofs.Coordinator.FollowUp
import TimedQuiz.Proofs.Coordinator.Rounds
import TimedQuiz.Proofs.Coordinator.Shift

namespace TimedQuiz.Coordinator

/-- The answer refuses the command, or the command comes too late to be heard. -/
inductive Refused (c : Coordinator) : Command → Reply → Prop
  | start (player : Player) (refusal : Phase.InvalidTransition) :
      Refused c (.start player) (.started (.error refusal))
  /-- There is no puzzle to answer. -/
  | unshown (value : Int) : Refused c (.submit value) (.submitted .noPuzzle)
  /-- There is no round to answer in. -/
  | unplayed (value : Int) (resting : c.phase ≠ .running) :
      Refused c (.submit value) (.submitted .inactive)
  | loading : Refused c .next (.requested .alreadyLoading)
  | resting : Refused c .next (.requested .notRunning)
  | finish : Refused c .finish (.finished false)
  | look (view : Snapshot) : Refused c .look (.seen view)
  | fetched {of : Nat} (outcome : Option Puzzle) (stale : of ≠ c.generation) :
      Refused c (.fetched of outcome) .silent
  | retryDue {of : Nat} (stale : of ≠ c.generation) : Refused c (.retryDue of) .silent
  /-- The follow-up is of another round, or of another answer. -/
  | followUpDue {of sequence : Nat}
      (stale : ¬ (of = c.generation ∧ sequence = c.followUpSequence)) :
      Refused c (.followUpDue of sequence) .silent
  | tick {of : Nat} (remaining : Span) (stale : ¬ (of = c.generation ∧ c.phase = .running)) :
      Refused c (.tick of remaining) .silent
  | expired {of : Nat} (stale : ¬ (of = c.generation ∧ c.phase = .running)) :
      Refused c (.expired of) .silent

variable {timings : Timings} {watch : Watch} {now : Span} {c : Coordinator}

/-- A command is refused and leaves everything as it is, or it is not refused and changes the
coordinator. -/
def RefusedOrFelt (c : Coordinator) (command : Command)
    (result : Reply × Coordinator × List Effect) : Prop :=
  (Refused c command result.1 ∧ result.2 = (c, [])) ∨
    (¬ Refused c command result.1 ∧ result.2.1 ≠ c)

/-! ### Each handler refuses or is felt -/

/-- A running round is ended, and that is felt. -/
theorem finish_of_running (coherent : Coherent c) (running : c.phase = .running) :
    c.finish.1 = true ∧ c.finish.2.1 ≠ c := by
  obtain ⟨fresh, round, present, -⟩ := coherent.running running
  have ended : c.finish.1 = true := by simp only [finish, fresh, running, present]
  have stopped := (finish_phase ended).2
  refine ⟨ended, fun same => ?_⟩
  rw [same, running] at stopped
  cases stopped

theorem start_of_running (player : Player) (running : c.phase = .running) :
    c.start timings watch player = (.error ⟨.running, .start⟩, c, []) := by
  unfold start
  rw [running]
  rfl

/-- **A start is refused exactly while a round is running.** -/
theorem start_error_iff (player : Player) (coherent : Coherent c) :
    (∃ refusal, (c.start timings watch player).1 = .error refusal) ↔ c.phase = .running := by
  by_cases running : c.phase = .running
  · rw [start_of_running player running]
    exact iff_of_true ⟨_, rfl⟩ running
  · rw [start_of_resting (coherent.between_rounds running)]
    exact iff_of_false (fun ⟨_, impossible⟩ => by cases impossible) running

theorem start_refused_or_felt (player : Player) (coherent : Coherent c) :
    RefusedOrFelt c (.start player) (c.handle timings watch (.start player)) := by
  show RefusedOrFelt c _
    (.started (c.start timings watch player).1, (c.start timings watch player).2)
  by_cases running : c.phase = .running
  · rw [start_of_running player running]
    exact Or.inl ⟨.start player _, rfl⟩
  · rw [start_of_resting (coherent.between_rounds running)]
    refine Or.inr ⟨fun refused => (by cases refused), fun same => ?_⟩
    have numbers := congrArg generation same
    rw [generation_requestNext] at numbers
    exact Nat.succ_ne_self _ numbers

theorem submit_refused_or_felt (value : Int) (coherent : Coherent c) :
    RefusedOrFelt c (.submit value) (c.handle timings watch (.submit value)) := by
  let result := c.submit timings (watch.reading 0) (watch.reading 1) value
  show RefusedOrFelt c _ (.submitted result.1, result.2)
  unfold result submit
  split
  · split
    · exact Or.inl ⟨.unshown value, rfl⟩
    · refine Or.inr ⟨fun refused => (by cases refused), fun same => ?_⟩
      have sequences := congrArg followUpSequence same
      exact Nat.succ_ne_self _ sequences
  · by_cases running : c.phase = .running
    · refine Or.inr ⟨fun refused => ?_, (finish_of_running coherent running).2⟩
      cases refused with
      | unplayed _ resting => exact resting running
    · rw [finish_of_resting running]
      exact Or.inl ⟨.unplayed value running, rfl⟩

theorem next_refused_or_felt (coherent : Coherent c) :
    RefusedOrFelt c .next (c.handle timings watch .next) := by
  let result := c.requestNext (watch.reading 0)
  show RefusedOrFelt c _ (.requested result.1, result.2)
  unfold result requestNext
  split_ifs with resting loading active
  · exact Or.inl ⟨.resting, rfl⟩
  · exact Or.inl ⟨.loading, rfl⟩
  · refine Or.inr ⟨fun refused => (by cases refused), fun same => ?_⟩
    have tickets := congrArg nextTicket same
    exact Nat.succ_ne_self _ tickets
  · have running : c.phase = .running := not_not.mp resting
    exact Or.inr ⟨fun refused => (by cases refused), (finish_of_running coherent running).2⟩

theorem finish_refused_or_felt (coherent : Coherent c) :
    RefusedOrFelt c .finish (c.handle timings watch .finish) := by
  show RefusedOrFelt c _ (.finished c.finish.1, c.finish.2)
  by_cases running : c.phase = .running
  · obtain ⟨ended, felt⟩ := finish_of_running coherent running
    rw [ended]
    exact Or.inr ⟨fun refused => (by cases refused), felt⟩
  · rw [finish_of_resting running]
    exact Or.inl ⟨.finish, rfl⟩

/-- **A request is refused and leaves everything as it is, or it is felt.** -/
theorem request_refused_or_felt {command : Command} (coherent : Coherent c)
    (request : command.isRequest = true) :
    RefusedOrFelt c command (c.handle timings watch command) := by
  cases command with
  | start player => exact start_refused_or_felt player coherent
  | submit value => exact submit_refused_or_felt value coherent
  | next => exact next_refused_or_felt coherent
  | finish => exact finish_refused_or_felt coherent
  | look => exact Or.inl ⟨.look _, rfl⟩
  | _ => cases request

/-- **A refused command leaves the coordinator as it is and has no effects.** -/
theorem handle_of_refused {command : Command} (coherent : Coherent c)
    (refused : Refused c command (c.handle timings watch command).1) :
    (c.handle timings watch command).2 = (c, []) := by
  cases request : command.isRequest with
  | true =>
    rcases request_refused_or_felt coherent request with ⟨-, unchanged⟩ | ⟨heard, -⟩
    · exact unchanged
    · exact absurd refused heard
  | false =>
    generalize (c.handle timings watch command).1 = reply at refused
    cases refused with
    | fetched outcome stale => simp only [handle, Coordinator.fetched, if_pos stale]
    | retryDue stale => simp only [handle, if_neg stale]
    | followUpDue stale => simp only [handle, if_neg stale]
    | tick remaining stale => simp only [handle, if_neg stale]
    | expired stale =>
      rcases not_and_or.mp stale with other | resting
      · simp only [handle, if_neg other]
      · simp only [handle, finish_of_resting resting, ite_self]
    | _ => cases request

/-! ### The main result -/

/-- **Refused commands change nothing.** In every state that a run reaches, whatever the clock does
meanwhile, a command that is refused or comes too late leaves the coordinator as it is and has no
effects; if it was the first to wait, the mailbox is all that changes. No other request leaves the
coordinator as it is. A start is refused exactly while a round is running. -/
theorem unchanged_of_refused (timings : Timings) (steps : List World.Step) (command : Command)
    (pauses : List Span) :
    let world := World.run timings {} steps
    let c := world.coordinator
    let watch : Watch := { start := world.now, pauses }
    let handled := c.handle timings watch command
    (Refused c command handled.1 → handled.2 = (c, []) ∧
      ∀ rest, world.mailbox = command :: rest →
        world.step timings (.deliver pauses) = { world with mailbox := rest, now := watch.stop }) ∧
      (command.isRequest = true → handled.2.1 = c → Refused c command handled.1) ∧
      ∀ player, command = .start player →
        ((∃ refusal, handled.1 = .started (.error refusal)) ↔ c.phase = .running) := by
  intro world c watch handled
  have coherent : Coherent c := (accounted_of_run timings steps).coherent
  refine ⟨fun refused => ?_, fun request same => ?_, ?_⟩
  · have unchanged : handled.2 = (c, []) := handle_of_refused coherent refused
    refine ⟨unchanged, fun rest waiting => ?_⟩
    have after : world.step timings (.deliver pauses) =
        handled.2.2.foldl World.perform
          { world with mailbox := rest, coordinator := handled.2.1, now := watch.stop } := by
      simp only [World.step, World.deliver, waiting]
      rfl
    rw [after, unchanged]
    rfl
  · have either : RefusedOrFelt c command handled := request_refused_or_felt coherent request
    rcases either with ⟨refused, -⟩ | ⟨-, felt⟩
    · exact refused
    · exact absurd same felt
  · rintro player rfl
    have refusals : (∃ refusal, (c.start timings watch player).1 = .error refusal) ↔
        c.phase = .running := start_error_iff player coherent
    refine Iff.trans (exists_congr fun refusal => ?_) refusals
    exact ⟨fun answer => Reply.started.inj answer, fun answer => congrArg Reply.started answer⟩

/-- A round is running when another start waits to be handled. -/
def startedTwice : List World.Step :=
  [.ask (.start (.fresh "ann")), .deliver [], .ask (.start (.fresh "bob"))]

/-- The second start is refused: the fetch and the countdown of the first round go on, and nothing
is announced. -/
theorem unchanged_of_refused_startedTwice :
    let world := World.run .standard {} startedTwice
    world.tasks.length = 2 ∧
      world.step .standard (.deliver [7]) = { world with mailbox := [], now := 7 } := by
  obtain ⟨unchanged, -, refusals⟩ :=
    unchanged_of_refused .standard startedTwice (.start (.fresh "bob")) [7]
  obtain ⟨refusal, answer⟩ := (refusals (.fresh "bob") rfl).mpr (by decide)
  refine ⟨by decide, (unchanged ?_).2 [] (by decide)⟩
  rw [answer]
  exact .start _ refusal

end TimedQuiz.Coordinator
