/-
**The coordinator without the solutions.**

A veil covers the solution of every puzzle, on display, on its way or announced. Whoever looks
through the veil cannot tell apart two coordinators whose puzzles differ in their solutions only.

* `handle_veiled`: a command other than an answer is handled under the veil as without it.
* `submit_veiled`: two coordinators that are the same under the veil give different verdicts on an
  answer, or they stay the same.
* `World.Apace.sleep`, `World.paired_request`: two worlds stay the same under the veil as long as
  their verdicts agree.
-/

import TimedQuiz.Proofs.Coordinator.Schedule
import TimedQuiz.Proofs.Coordinator.Shift

namespace TimedQuiz

/-! ### The veil -/

/-- The puzzle with its solution covered. -/
def Puzzle.veiled (puzzle : Puzzle) : Puzzle := { puzzle with solution := 0 }

/-- The event with the solution covered in it. -/
def Event.veiled : Event → Event
  | .puzzleLoaded puzzle => .puzzleLoaded puzzle.veiled
  | event => event

/-- The verdict that the event tells. -/
def Event.correct? : Event → Option Bool
  | .answerGraded _ correct _ => some correct
  | _ => none

def Round.veiled (round : Round) : Round :=
  { round with puzzle := round.puzzle.map Puzzle.veiled }

/-- What is the same under a map is missing in both places or in none. -/
theorem none_or_some_of_map_eq {α β : Type} {view : α → β} {first second : Option α}
    (same : first.map view = second.map view) :
    (first = none ∧ second = none) ∨
      ∃ one other, first = some one ∧ second = some other ∧ view one = view other := by
  cases first with
  | none =>
    cases second with
    | none => exact Or.inl ⟨rfl, rfl⟩
    | some other => cases same
  | some one =>
    cases second with
    | none => cases same
    | some other => exact Or.inr ⟨one, other, rfl, rfl, Option.some.inj same⟩

namespace Round

/-- Under the veil two rounds can differ in their puzzles only. -/
theorem eq_of_veiled {round other : Round} (same : round.veiled = other.veiled) :
    ∃ puzzle, other = { round with puzzle } ∧
      round.puzzle.map Puzzle.veiled = puzzle.map Puzzle.veiled := by
  obtain ⟨player, shown, clock, live, score, attempts⟩ := round
  obtain ⟨player', shown', clock', live', score', attempts'⟩ := other
  simp only [Round.veiled, Round.mk.injEq] at same
  obtain ⟨rfl, puzzle, rfl, rfl, rfl, rfl⟩ := same
  exact ⟨shown', rfl, puzzle⟩

/-- With the same verdict they stay the same under the veil. -/
theorem grade_veiled {round other : Round} (same : round.veiled = other.veiled) (now : Span)
    (value : Int) (agree : (round.grade now value).1 = (other.grade now value).1) :
    (round.grade now value).2.veiled = (other.grade now value).2.veiled := by
  obtain ⟨puzzle, rfl, puzzles⟩ := eq_of_veiled same
  have active : ({ round with puzzle } : Round).isActive now = round.isActive now := rfl
  unfold grade at agree ⊢
  rw [active] at agree ⊢
  cases lasts : round.isActive now with
  | false => exact same
  | true =>
    rcases none_or_some_of_map_eq puzzles with ⟨mine, rfl⟩ | ⟨first, second, mine, rfl, covered⟩
    · rw [mine]
      exact same
    · rw [lasts, mine] at agree
      replace agree : decide (first.solution = value) = decide (second.solution = value) := agree
      simp only [mine, agree, record, veiled, Option.map_some, covered]

end Round

def Snapshot.veiled (snapshot : Snapshot) : Snapshot :=
  { snapshot with puzzle := snapshot.puzzle.map Puzzle.veiled }

namespace Coordinator

@[simps]
def veiled (c : Coordinator) : Coordinator := { c with round := c.round.map Round.veiled }

def Command.veiled : Command → Command
  | .fetched generation outcome => .fetched generation (outcome.map Puzzle.veiled)
  | command => command

def Reply.veiled : Reply → Reply
  | .started result => .started (result.map Snapshot.veiled)
  | .seen snapshot => .seen snapshot.veiled
  | reply => reply

def Effect.veiled : Effect → Effect
  | .publish event => .publish event.veiled
  | effect => effect

def Attempt.veiled (attempt : Attempt) : Attempt :=
  { attempt with outcome := attempt.outcome.map Puzzle.veiled }

/-- What handling something gives, with the solutions covered. -/
@[simps]
def covered {α β : Type} (view : α → β) (result : α × Coordinator × List Effect) :
    β × Coordinator × List Effect :=
  (view result.1, result.2.1.veiled, result.2.2.map Effect.veiled)

/-- The command submits an answer. -/
def Command.isAnswer : Command → Bool
  | .submit _ => true
  | _ => false

theorem Command.isAnswer_veiled (command : Command) :
    command.veiled.isAnswer = command.isAnswer := by
  cases command <;> rfl

/-- The veil leaves answers as they are. -/
theorem Command.eq_of_isAnswer {command another : Command} (answers : command.isAnswer = true)
    (same : command.veiled = another.veiled) :
    ∃ value, command = .submit value ∧ another = .submit value := by
  cases command with
  | submit value =>
    cases another with
    | submit other => exact ⟨value, rfl, same.symm⟩
    | _ => cases same
  | _ => cases answers

/-! ### Handlers -/

section Handlers

variable (c : Coordinator)

@[simp]
theorem isActive_veiled (now : Span) : c.veiled.isActive now = c.isActive now := by
  unfold isActive veiled
  cases c.round <;> rfl

@[simp]
theorem view_veiled (first second : Span) :
    c.veiled.view first second = (c.view first second).veiled := by
  unfold view
  rw [veiled_round]
  cases c.round <;> rfl

theorem map_veiled_cancel (tickets : List Nat) :
    (tickets.map Effect.cancel).map Effect.veiled = tickets.map Effect.cancel :=
  List.map_map ..

theorem finish_veiled : c.veiled.finish = covered id c.finish := by
  unfold finish
  rw [veiled_hasEnded, veiled_phase, veiled_round]
  cases c.hasEnded with
  | true => rfl
  | false =>
    cases c.phase with
    | running =>
      cases c.round with
      | none => rfl
      | some round =>
        simp only [cancelTimers, Option.map_some, covered, List.map_append, map_veiled_cancel]
        rfl
    | _ => rfl

theorem requestNext_veiled (now : Span) :
    c.veiled.requestNext now = covered id (c.requestNext now) := by
  unfold requestNext
  rw [isActive_veiled, veiled_phase, veiled_loading]
  split
  · rfl
  · split
    · rfl
    · split
      · rfl
      · rw [finish_veiled]
        rfl

theorem fetched_veiled (timings : Timings) (now : Span) (of : Nat) (outcome : Option Puzzle) :
    c.veiled.fetched timings now of (outcome.map Puzzle.veiled) =
      ((c.fetched timings now of outcome).1.veiled,
        (c.fetched timings now of outcome).2.map Effect.veiled) := by
  unfold fetched
  rw [isActive_veiled, veiled_phase, veiled_generation]
  split
  · rfl
  · split
    · cases outcome with
      | none => rfl
      | some puzzle =>
        unfold veiled
        cases c.round <;> rfl
    · rfl

theorem start_veiled (timings : Timings) (watch : Watch) (player : Player) :
    c.veiled.start timings watch player =
      covered (Except.map Snapshot.veiled) (c.start timings watch player) := by
  by_cases resting : c.phase = .idle ∨ c.phase = .ended
  · have opened : c.veiled.opened timings player (watch.reading 0) =
        (c.opened timings player (watch.reading 0)).veiled := rfl
    have timers : c.veiled.cancelTimers.2 = c.cancelTimers.2.map Effect.veiled :=
      (map_veiled_cancel _).symm
    rw [start_of_resting resting, start_of_resting (c := c.veiled) resting]
    simp only [opened, requestNext_veiled, timers, covered, view_veiled, List.map_append]
    rfl
  · obtain ⟨refusal, refused⟩ := start_refused resting
    simp only [start, veiled_phase, refused]
    rfl

/-- **Nothing but an answer depends on a solution.** -/
theorem handle_veiled (timings : Timings) (watch : Watch) {command : Command}
    (other : command.isAnswer = false) :
    c.veiled.handle timings watch command.veiled =
      covered Reply.veiled (c.handle timings watch command) := by
  cases command with
  | start player =>
    simp only [Command.veiled, handle, start_veiled]
    rfl
  | submit value => cases other
  | next =>
    simp only [Command.veiled, handle, requestNext_veiled]
    rfl
  | finish =>
    simp only [Command.veiled, handle, finish_veiled]
    rfl
  | look =>
    simp only [Command.veiled, handle, view_veiled]
    rfl
  | fetched of outcome =>
    simp only [Command.veiled, handle, fetched_veiled]
    rfl
  | retryDue of =>
    have asked := requestNext_veiled { c with retry := none, loading := false } (watch.reading 0)
    simp only [Command.veiled, handle, veiled_generation]
    split
    · exact congrArg (fun result => (Reply.silent, result.2)) asked
    · rfl
  | followUpDue of sequence =>
    have asked := requestNext_veiled { c with followUp := none } (watch.reading 0)
    simp only [Command.veiled, handle, veiled_generation, veiled_followUpSequence]
    split
    · exact congrArg (fun result => (Reply.silent, result.2)) asked
    · rfl
  | tick of remaining =>
    simp only [Command.veiled, handle, veiled_generation, veiled_phase]
    split <;> rfl
  | expired of =>
    simp only [Command.veiled, handle, veiled_generation, finish_veiled]
    split <;> rfl

end Handlers

/-! ### Answers -/

section Answers

variable {c d : Coordinator}

/-- Under the veil two coordinators can differ in their rounds only. -/
theorem eq_of_veiled (same : c.veiled = d.veiled) :
    ∃ round, d = { c with round } ∧ c.round.map Round.veiled = round.map Round.veiled := by
  obtain ⟨phase, round, generation, loading, ended, ticket, sequence, followUp, retry,
    countdown⟩ := c
  obtain ⟨phase', round', generation', loading', ended', ticket', sequence', followUp', retry',
    countdown'⟩ := d
  simp only [veiled, Coordinator.mk.injEq] at same
  obtain ⟨rfl, rounds, rfl, rfl, rfl, rfl, rfl, rfl, rfl, rfl⟩ := same
  exact ⟨round', rfl, rounds⟩

/-- **Two coordinators that are the same under the veil stay so after an answer, unless they give
different verdicts.** -/
theorem submit_veiled (same : c.veiled = d.veiled) (timings : Timings) (before during : Span)
    (value : Int) :
    covered id (c.submit timings before during value) =
        covered id (d.submit timings before during value) ∨
      ∃ verdict,
        (published (c.submit timings before during value).2.2).filterMap Event.correct? =
          [verdict] ∧
        (published (d.submit timings before during value).2.2).filterMap Event.correct? =
          [!verdict] := by
  have ended : covered id c.finish = covered id d.finish := by
    rw [← finish_veiled, ← finish_veiled, same]
  have active : d.isActive before = c.isActive before := by
    rw [← isActive_veiled, ← same, isActive_veiled]
  obtain ⟨round, rfl, rounds⟩ := eq_of_veiled same
  unfold submit
  rw [active]
  cases decide (c.phase = .running) && c.isActive before with
  | false => exact Or.inl (congrArg (fun result => (Grading.inactive, result.2)) ended)
  | true =>
    rcases none_or_some_of_map_eq rounds with ⟨mine, rfl⟩ | ⟨first, second, mine, rfl, alike⟩
    · rw [mine]
      exact Or.inl (congrArg (fun result => (Grading.inactive, result.2)) ended)
    · rw [mine]
      rcases none_or_some_of_map_eq (congrArg Round.puzzle alike) with
        ⟨shown, displayed⟩ | ⟨one, other, shown, displayed, -⟩
      · simp only [shown, displayed]
        exact Or.inl (congrArg (fun c => (Grading.noPuzzle, c, [])) same)
      · simp only [shown, displayed]
        by_cases agree : (first.grade during value).1 = (second.grade during value).1
        · have graded := Round.grade_veiled alike during value agree
          have player := congrArg Round.player graded
          change (first.grade during value).2.player =
            (second.grade during value).2.player at player
          left
          rw [agree, player]
          refine Prod.ext rfl (Prod.ext ?_ rfl)
          exact congrArg (fun round => { c with
            round := some round
            followUpSequence := c.followUpSequence + 1
            followUp := some c.nextTicket
            nextTicket := c.nextTicket + 1 }) graded
        · refine Or.inr ⟨(first.grade during value).1, ?_, ?_⟩
          · rw [published_append, published_scheduleFollowUp]
            rfl
          · rw [published_append, published_scheduleFollowUp, Bool.not_eq.mpr agree]
            rfl

end Answers
end Coordinator
end TimedQuiz
