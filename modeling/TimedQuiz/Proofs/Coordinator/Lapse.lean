/-
**The coordinator never falls back on anything.**

While it ends a round and while it takes an answer, the coordinator is ready for states that should
not be: a trigger that the phase refuses, and a running round that is not there. It goes on as well
as it can and tells nobody. Here each handler is followed with its checks in order, and every such
lapse is noted.

* `handleNoting_fst`: noting changes nothing.
* `handleNoting_snd`: while the parts of the state fit together, there is nothing to note.
* `fits_of_run`: in every state that a run reaches they do: the phase, the round, the flags and the
  timers. So no command ever meets a lapse.
-/

import TimedQuiz.Proofs.Coordinator.Timers

namespace TimedQuiz.Coordinator

variable {timings : Timings} {watch : Watch} {c : Coordinator}

/-! ### Lapses -/

/-- What a handler passes over in silence. -/
inductive Lapse
  /-- A trigger is refused while a round is ended, and the phase stays. -/
  | refused (refusal : Phase.InvalidTransition)
  /-- A running round is missing. -/
  | missing
  deriving DecidableEq, Repr

/-- A result, and the lapses on the way to it. -/
abbrev Noting (Result : Type) := Result × List Lapse

/-- The phase after a trigger, noting a refusal. -/
def advanceNoting (phase : Phase) (trigger : Phase.Trigger) : Noting Phase :=
  match phase.apply trigger with
  | .ok next => (next, [])
  | .error refusal => (phase, [.refused refusal])

theorem advanceNoting_fst (phase : Phase) (trigger : Phase.Trigger) :
    (advanceNoting phase trigger).1 = phase.advance trigger := by
  rw [advanceNoting, Phase.advance]
  cases phase.apply trigger <;> rfl

/-! ### Handlers that note -/

/-- Ends the running round. What stands in the way is checked one after the other. -/
def finishNoting (c : Coordinator) : Noting (Bool × Coordinator × List Effect) :=
  if c.hasEnded then ((false, c, []), [])
  else if c.phase ≠ .running then ((false, c, []), [])
  else
    match c.round with
    | none => ((false, c, []), [.missing])
    | some round =>
      let closed := round.close
      let (between, first) := advanceNoting c.phase .beginEnd
      let closing := { c with hasEnded := true, phase := between, round := some closed }
      let (quiet, cancellations) := closing.cancelTimers
      let (after, second) := advanceNoting quiet.phase .finishEnd
      ((true, { quiet with phase := after },
          cancellations ++ [.publish (.roundEnded closed.player closed.summary)]),
        first ++ second)

/-- Asks for the next puzzle. -/
def requestNextNoting (now : Span) (c : Coordinator) :
    Noting (Loading × Coordinator × List Effect) :=
  if c.phase ≠ .running then ((.notRunning, c, []), [])
  else if c.loading then ((.alreadyLoading, c, []), [])
  else if c.isActive now then (c.requestNext now, [])
  else
    let ((_, ended, effects), lapses) := c.finishNoting
    ((.expired, ended, effects), lapses)

/-- Starts a round for a player. -/
def startNoting (timings : Timings) (watch : Watch) (c : Coordinator) (player : Player) :
    Noting (Except Phase.InvalidTransition Snapshot × Coordinator × List Effect) :=
  match c.phase.apply .start with
  | .error refusal => ((.error refusal, c, []), [])
  | .ok phase =>
    let (quiet, cancellations) := { c with phase }.cancelTimers
    let round := Round.openedAt player timings.round (watch.reading 0)
    let opened :=
      { quiet with
        generation := quiet.generation + 1
        round := some round
        hasEnded := false
        loading := false
        countdown := some quiet.nextTicket
        nextTicket := quiet.nextTicket + 1 }
    let ((_, ready, effects), lapses) := opened.requestNextNoting (watch.reading 1)
    ((.ok (ready.view (watch.reading 2) (watch.reading 3)), ready,
        cancellations ++
          [.publish (.roundStarted player),
            .countDown quiet.nextTicket opened.generation round.clock] ++
          effects),
      lapses)

/-- Grades a submitted value. The round is looked for only once it is known to be active. -/
def submitNoting (timings : Timings) (before during : Span) (c : Coordinator) (value : Int) :
    Noting (Grading × Coordinator × List Effect) :=
  if c.phase ≠ .running ∨ c.isActive before = false then
    let ((_, ended, effects), lapses) := c.finishNoting
    ((.inactive, ended, effects), lapses)
  else
    match c.round with
    | none => ((.inactive, c, []), [.missing])
    | some _ => (c.submit timings before during value, [])

/-- Handles one command. Only what ends a round or looks for one can meet a lapse. -/
def handleNoting (timings : Timings) (watch : Watch) (c : Coordinator) (command : Command) :
    Noting (Reply × Coordinator × List Effect) :=
  match command with
  | .start player =>
    let ((result, next, effects), lapses) := c.startNoting timings watch player
    ((.started result, next, effects), lapses)
  | .submit value =>
    let ((grading, next, effects), lapses) :=
      c.submitNoting timings (watch.reading 0) (watch.reading 1) value
    ((.submitted grading, next, effects), lapses)
  | .next =>
    let ((loading, next, effects), lapses) := c.requestNextNoting (watch.reading 0)
    ((.requested loading, next, effects), lapses)
  | .finish =>
    let ((ended, next, effects), lapses) := c.finishNoting
    ((.finished ended, next, effects), lapses)
  | .retryDue generation =>
    if generation = c.generation then
      let ((_, next, effects), lapses) :=
        { c with retry := none, loading := false }.requestNextNoting (watch.reading 0)
      ((.silent, next, effects), lapses)
    else ((.silent, c, []), [])
  | .followUpDue generation sequence =>
    if generation = c.generation ∧ sequence = c.followUpSequence then
      let ((_, next, effects), lapses) :=
        { c with followUp := none }.requestNextNoting (watch.reading 0)
      ((.silent, next, effects), lapses)
    else ((.silent, c, []), [])
  | .expired generation =>
    if generation = c.generation then
      let ((_, next, effects), lapses) := c.finishNoting
      ((.silent, next, effects), lapses)
    else ((.silent, c, []), [])
  | .look => (c.handle timings watch .look, [])
  | .fetched generation outcome => (c.handle timings watch (.fetched generation outcome), [])
  | .tick generation remaining => (c.handle timings watch (.tick generation remaining), [])

/-! ### Noting changes nothing -/

theorem finishNoting_fst (c : Coordinator) : c.finishNoting.1 = c.finish := by
  unfold finishNoting
  split
  · rename_i ended
    simp only [finish, ended]
  · rename_i fresh
    split
    · rename_i resting
      exact (finish_of_resting resting).symm
    · rename_i running
      have running := not_not.mp running
      have fresh := eq_false_of_ne_true fresh
      cases present : c.round with
      | none => simp only [finish, fresh, running, present]
      | some round => simp only [finish, fresh, running, present, advanceNoting_fst]

theorem requestNextNoting_fst (now : Span) (c : Coordinator) :
    (c.requestNextNoting now).1 = c.requestNext now := by
  unfold requestNextNoting
  split
  · rename_i resting
    rw [requestNext, if_pos resting]
  · rename_i running
    split
    · rename_i loading
      rw [requestNext, if_neg running, if_pos loading]
    · rename_i free
      split
      · rfl
      · rename_i inactive
        rw [requestNext, if_neg running, if_neg free, if_neg inactive, ← finishNoting_fst]

theorem startNoting_fst (timings : Timings) (watch : Watch) (c : Coordinator) (player : Player) :
    (c.startNoting timings watch player).1 = c.start timings watch player := by
  unfold startNoting start
  cases c.phase.apply .start with
  | error refusal => rfl
  | ok phase => simp only [requestNextNoting_fst]

theorem submitNoting_fst (timings : Timings) (before during : Span) (c : Coordinator)
    (value : Int) :
    (c.submitNoting timings before during value).1 = c.submit timings before during value := by
  unfold submitNoting
  split
  · rename_i late
    have guarded : (decide (c.phase = .running) && c.isActive before) = false := by
      rw [Bool.and_eq_false_iff, decide_eq_false_iff_not]
      exact late
    simp only [submit, guarded, finishNoting_fst]
  · rename_i active
    cases present : c.round with
    | some round => rfl
    | none =>
      -- Without a round none is active.
      refine absurd (Or.inr ?_) active
      rw [isActive, present]
      rfl

/-- **Noting changes nothing**, whatever the state. -/
theorem handleNoting_fst (timings : Timings) (watch : Watch) (c : Coordinator)
    (command : Command) :
    (c.handleNoting timings watch command).1 = c.handle timings watch command := by
  cases command with
  | start player => rw [handleNoting, handle, ← startNoting_fst]
  | submit value => rw [handleNoting, handle, ← submitNoting_fst]
  | next => rw [handleNoting, handle, ← requestNextNoting_fst]
  | finish => rw [handleNoting, handle, ← finishNoting_fst]
  | retryDue generation =>
    rw [handleNoting, handle]
    split
    · rw [← requestNextNoting_fst]
    · rfl
  | followUpDue generation sequence =>
    rw [handleNoting, handle]
    split
    · rw [← requestNextNoting_fst]
    · rfl
  | expired generation =>
    rw [handleNoting, handle]
    split
    · rw [← finishNoting_fst]
    · rfl
  | look => rfl
  | fetched generation outcome => rfl
  | tick generation remaining => rfl

/-! ### Nothing to note -/

/-- A coherent state is ended without a lapse. -/
theorem finishNoting_snd (coherent : Coherent c) : c.finishNoting.2 = [] := by
  unfold finishNoting
  split
  · rfl
  · split
    · rfl
    · rename_i running
      have running := not_not.mp running
      obtain ⟨-, round, present, -⟩ := coherent.running running
      simp only [present, running]
      rfl

theorem requestNextNoting_snd (now : Span) (coherent : Coherent c) :
    (c.requestNextNoting now).2 = [] := by
  unfold requestNextNoting
  split
  · rfl
  · split
    · rfl
    · split
      · rfl
      · exact finishNoting_snd coherent

/-- A round that has just been opened can be ended at once, should its time be up already. -/
theorem startNoting_snd (timings : Timings) (watch : Watch) (c : Coordinator) (player : Player) :
    (c.startNoting timings watch player).2 = [] := by
  unfold startNoting
  split
  · rfl
  · rename_i phase applied
    obtain ⟨-, rfl⟩ := Phase.of_apply_start applied
    exact requestNextNoting_snd _ (.of_running rfl rfl rfl rfl)

theorem submitNoting_snd (timings : Timings) (before during : Span) (value : Int)
    (coherent : Coherent c) : (c.submitNoting timings before during value).2 = [] := by
  unfold submitNoting
  split
  · exact finishNoting_snd coherent
  · rename_i active
    obtain ⟨running, -⟩ := not_or.mp active
    obtain ⟨-, round, present, -⟩ := coherent.running (not_not.mp running)
    rw [present]

/-- **While the parts of the state fit together, no command meets a lapse.** -/
theorem handleNoting_snd (command : Command) (coherent : Coherent c) :
    (c.handleNoting timings watch command).2 = [] := by
  cases command with
  | start player => exact startNoting_snd timings watch c player
  | submit value => exact submitNoting_snd timings _ _ value coherent
  | next => exact requestNextNoting_snd _ coherent
  | finish => exact finishNoting_snd coherent
  | retryDue generation =>
    rw [handleNoting]
    split
    · exact requestNextNoting_snd _ (coherent.congr rfl rfl rfl fun _ _ => rfl)
    · rfl
  | followUpDue generation sequence =>
    rw [handleNoting]
    split
    · exact requestNextNoting_snd _ (coherent.congr rfl rfl rfl fun _ free => free)
    · rfl
  | expired generation =>
    rw [handleNoting]
    split
    · exact finishNoting_snd coherent
    · rfl
  | look => rfl
  | fetched generation outcome => rfl
  | tick generation remaining => rfl

/-! ### The state between two commands -/

/-- The parts of the state fit together, and fit the effects so far. -/
structure Fits (c : Coordinator) (done : List Effect) : Prop where
  settled : c.phase ≠ .ending
  idle : c.phase = .idle → c.round = none ∧ c.generation = 0
  /-- The countdown that is held was started for the current round and runs on its clock. -/
  running : c.phase = .running → c.hasEnded = false ∧
    ∃ ticket round, c.round = some round ∧ round.live = true ∧ c.countdown = some ticket ∧
      .countDown ticket c.generation round.clock ∈ done
  ended : c.phase = .ended →
    c.hasEnded = true ∧ ∃ round, c.round = some round ∧ round.live = false
  timers : c.phase ≠ .running → c.countdown = none ∧ c.followUp = none ∧ c.retry = none
  retry : c.retry ≠ none → c.loading = true
  /-- No ticket was given out twice, so work is known by its ticket. -/
  tickets : tickets done = List.range c.nextTicket

/-- **Between two commands the parts of the state fit together.** So it is in every state that a
run reaches, whatever was asked, however the fetches went, whichever timers came due in which order,
and however much time every step took; a round may have been over as soon as it was opened.

So whatever command is handled next, and however the clock moves meanwhile, both triggers that end
a round are admitted, and a running round that is looked for is there. -/
theorem fits_of_run (timings : Timings) (steps : List World.Step) :
    let c := (World.run timings {} steps).coordinator
    Fits c (World.effects timings {} steps) ∧
      ∀ watch command,
        c.handleNoting timings watch command = (c.handle timings watch command, []) := by
  intro c
  have coherent : Coherent c := (accounted_of_run timings steps).coherent
  have rested : Rested c := rested_of_run timings steps
  refine ⟨?_, fun watch command => ?_⟩
  · exact
      { settled := coherent.settled
        idle := fun idle => ⟨(coherent.idle idle).1, rested.idle idle⟩
        running := fun running => by
          obtain ⟨ticket, round, held, present, started⟩ := driven_of_run timings steps running
          exact ⟨(coherent.running running).1, ticket, round, present,
            coherent.live running present, held, started⟩
        ended := coherent.ended
        timers := rested.timers
        retry := loading_of_retry timings steps
        tickets := tickets_of_run timings steps }
  · exact Prod.ext (handleNoting_fst timings watch c command)
      (handleNoting_snd command coherent)

/-- A round whose first fetch has failed holds its countdown and its retry, and is loading; ending
it meets no lapse. A round of no length is over with the command that starts it. -/
theorem fits_of_run_endedInWait :
    let waiting := (World.run .standard {} (endedInWait.take 4)).coordinator
    let brief :=
      (World.run { Timings.standard with round := 0 } {} (endedInWait.take 2)).coordinator
    (waiting.phase = .running ∧ waiting.retry ≠ none ∧ waiting.loading = true ∧
        waiting.hasEnded = false ∧
        (waiting.handleNoting .standard (.still 0) .finish).2 = []) ∧
      brief.phase = .ended ∧ brief.hasEnded = true ∧ brief.countdown = none := by
  intro waiting brief
  obtain ⟨fits, clean⟩ := fits_of_run .standard (endedInWait.take 4)
  have running : waiting.phase = .running := by decide
  have held : waiting.retry ≠ none := by decide
  obtain ⟨closed, -⟩ := fits_of_run { Timings.standard with round := 0 } (endedInWait.take 2)
  have ended : brief.phase = .ended := by decide
  refine ⟨⟨running, held, fits.retry held, (fits.running running).1, ?_⟩, ended,
    (closed.ended ended).1, (closed.timers ?_).1⟩
  · exact congrArg Prod.snd (clean (.still 0) .finish)
  · exact fun running => Phase.noConfusion (ended.symm.trans running)

end TimedQuiz.Coordinator
