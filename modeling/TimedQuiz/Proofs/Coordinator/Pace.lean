/-
**Two worlds that keep pace.**

Two worlds are the same under the veil, and their sources answer alike but for the solutions. They
stay the same as long as their verdicts agree: only a verdict can part them, and once they are
parted their logs tell so for ever.

* `Log.Parted`: somewhere the logs tell different verdicts.
* `World.handle_apace`: handling a command keeps the pace, and is answered alike.
* `World.request_apace`, `World.sleep_apace`: so do a request and the time that goes by.
-/

import TimedQuiz.Proofs.Coordinator.Veil

namespace TimedQuiz

/-! ### Verdicts -/

namespace Log

/-- All verdicts that a log tells. -/
def allVerdicts (log : List Event) : List Bool := log.filterMap Event.correct?

/-- In some place two logs tell different verdicts. -/
def Parted (first second : List Event) : Prop :=
  ∃ (place : Nat) (verdict : Bool), (allVerdicts first)[place]? = some verdict ∧
    (allVerdicts second)[place]? = some !verdict

variable {first second : List Event}

/-- Verdicts are never taken back. -/
theorem Parted.mono (parted : Parted first second) {more other : List Event}
    (grown : first <+: more) (larger : second <+: other) : Parted more other := by
  obtain ⟨place, verdict, mine, others⟩ := parted
  have kept {log later : List Event} {told : Bool} (longer : log <+: later)
      (here : (allVerdicts log)[place]? = some told) : (allVerdicts later)[place]? = some told := by
    obtain ⟨rest, rfl⟩ := longer
    have within : place < (allVerdicts log).length := (List.getElem?_eq_some_iff.mp here).1
    rw [allVerdicts, List.filterMap_append]
    exact (List.getElem?_append_left within).trans here
  exact ⟨place, verdict, kept grown mine, kept larger others⟩

/-- Logs with the same verdicts are not parted. -/
theorem not_parted (agree : allVerdicts first = allVerdicts second) : ¬Parted first second := by
  rintro ⟨place, verdict, mine, others⟩
  rw [agree, others] at mine
  cases verdict <;> cases mine

/-- The first difference parts the logs. -/
theorem parted_of_last (agree : allVerdicts first = allVerdicts second) {more other : List Event}
    {verdict : Bool} (mine : more.filterMap Event.correct? = [verdict])
    (others : other.filterMap Event.correct? = [!verdict]) :
    Parted (first ++ more) (second ++ other) := by
  refine ⟨(allVerdicts first).length, verdict, ?_, ?_⟩
  · rw [allVerdicts, List.filterMap_append, mine]
    exact List.getElem?_concat_length
  · rw [allVerdicts, List.filterMap_append, others, agree]
    exact List.getElem?_concat_length

end Log

namespace Coordinator

/-! ### Sources -/

namespace Script

variable {script other : Script}

/-- Sources that are the same under the veil answer each call alike. -/
theorem attempt_veiled (same : script.map Attempt.veiled = other.map Attempt.veiled) (call : Nat) :
    (script.attempt call).veiled = (other.attempt call).veiled := by
  have covered (script : Script) : (script.attempt call).veiled =
      (script.map Attempt.veiled).getD call Attempt.never.veiled := by
    rw [attempt, List.getD_eq_getElem?_getD, List.getD_eq_getElem?_getD, List.getElem?_map,
      Option.getD_map]
  rw [covered, covered, same]

theorem delay_eq (same : script.map Attempt.veiled = other.map Attempt.veiled) (call : Nat) :
    (script.attempt call).delay = (other.attempt call).delay :=
  (congrArg Attempt.delay (attempt_veiled same call) :)

end Script

namespace World

variable {timings : Timings} {script other : Script} {world twin : World}

/-- Work comes due at the same time. -/
theorem dueAt_veiled (same : script.map Attempt.veiled = other.map Attempt.veiled) :
    dueAt timings script = dueAt timings other := by
  funext task
  unfold dueAt setDue
  cases task.job with
  | fetch of call => simp only [Script.delay_eq same call]
  | _ => rfl

theorem outcomeOf_veiled (same : script.map Attempt.veiled = other.map Attempt.veiled) (now : Span)
    (task : Task) :
    (outcomeOf script now task).map Puzzle.veiled =
      (outcomeOf other now task).map Puzzle.veiled := by
  unfold outcomeOf
  cases task.job with
  | fetch of call =>
    have outcome := congrArg Attempt.outcome (Script.attempt_veiled same call)
    simp only [Script.delay_eq same call]
    split
    · split
      · exact outcome
      · rfl
    · rfl
  | _ => rfl

/-! ### The world under the veil -/

/-- The world with the solutions covered. -/
@[simps]
def veiled (world : World) : World :=
  { world with
    coordinator := world.coordinator.veiled
    mailbox := world.mailbox.map Command.veiled
    log := world.log.map fun entry => (entry.1, entry.2.veiled) }

theorem post_veiled (world : World) (command : Command) :
    (world.post command).veiled = world.veiled.post command.veiled := by
  simp only [veiled, post, List.map_append, List.map_singleton]

theorem drop_veiled (world : World) (ticket : Nat) :
    (world.drop ticket).veiled = world.veiled.drop ticket := rfl

theorem perform_veiled (world : World) (effect : Effect) :
    (world.perform effect).veiled = world.veiled.perform effect.veiled := by
  cases effect with
  | publish event => simp only [veiled, perform, Effect.veiled, List.map_append, List.map_singleton]
  | _ => rfl

theorem foldl_perform_veiled (effects : List Effect) (world : World) :
    (effects.foldl perform world).veiled =
      (effects.map Effect.veiled).foldl perform world.veiled := by
  induction effects generalizing world with
  | nil => rfl
  | cons effect rest ih =>
    rw [List.foldl_cons, ih, perform_veiled, List.map_cons, List.foldl_cons]

/-- What is told under the veil contains all verdicts. -/
theorem allVerdicts_veiled (same : world.veiled = twin.veiled) :
    Log.allVerdicts (world.log.map Prod.snd) = Log.allVerdicts (twin.log.map Prod.snd) := by
  have uncovered (world : World) : Log.allVerdicts (world.log.map Prod.snd) =
      Log.allVerdicts (world.veiled.log.map Prod.snd) := by
    rw [veiled_log, List.map_map, Log.allVerdicts, Log.allVerdicts, List.filterMap_map,
      List.filterMap_map]
    refine List.filterMap_congr fun entry _ => ?_
    obtain ⟨instant, event⟩ := entry
    cases event <;> rfl
  rw [uncovered world, uncovered twin, same]

theorem fire_veiled (same : world.veiled = twin.veiled) (task : Task)
    {outcome result : Option Puzzle}
    (alike : outcome.map Puzzle.veiled = result.map Puzzle.veiled) :
    (world.fire timings task outcome).veiled = (twin.fire timings task result).veiled := by
  unfold fire
  cases task.job with
  | reminder due command => rw [post_veiled, post_veiled, drop_veiled, drop_veiled, same]
  | fetch of call =>
    rw [post_veiled, post_veiled, drop_veiled, drop_veiled, same, Command.veiled, Command.veiled,
      alike]
  | countDown of clock due =>
    have now : world.now = twin.now := (congrArg World.now same :)
    have told : (world.post (.tick of (clock.remaining twin.now))).veiled =
        (twin.post (.tick of (clock.remaining twin.now))).veiled := by
      rw [post_veiled, post_veiled, same]
    dsimp only
    rw [now]
    split
    · rw [post_veiled, post_veiled, drop_veiled, drop_veiled, told]
    · exact (congrArg (replace · task.ticket _) told :)

/-! ### Keeping pace -/

/-- The worlds are the same under the veil, unless their verdicts have parted. -/
def Apace (world twin : World) : Prop :=
  world.veiled = twin.veiled ∨ Log.Parted (world.log.map Prod.snd) (twin.log.map Prod.snd)

/-- What is the same can be done in both; what is parted stays so. -/
theorem Apace.next (apace : Apace world twin) {after later : World}
    (same : world.veiled = twin.veiled → Apace after later) (grown : world.log <+: after.log)
    (larger : twin.log <+: later.log) : Apace after later :=
  apace.elim same fun parted => Or.inr (parted.mono (grown.map _) (larger.map _))

/-- What has the same parts under the veil is carried out alike. -/
theorem carryOut_veiled (same : world.veiled = twin.veiled) {c d : Coordinator}
    {effects others : List Effect} (coordinators : c.veiled = d.veiled)
    (alike : effects.map Effect.veiled = others.map Effect.veiled) :
    (effects.foldl perform { world with coordinator := c }).veiled =
      (others.foldl perform { twin with coordinator := d }).veiled := by
  have begun : ({ world with coordinator := c } : World).veiled =
      ({ twin with coordinator := d } : World).veiled := by
    have replaced := congrArg (fun world => { world with coordinator := c.veiled }) same
    rw [show ({ twin with coordinator := d } : World).veiled =
      { twin.veiled with coordinator := c.veiled } by rw [coordinators]; rfl]
    exact replaced
  rw [foldl_perform_veiled, foldl_perform_veiled, alike, begun]

/-- **Handling the same under the veil keeps the pace, and is answered alike** unless the verdicts
part. -/
theorem handle_apace (timings : Timings) (same : world.veiled = twin.veiled)
    {command another : Command} (commands : command.veiled = another.veiled) :
    let mine := world.handle timings command
    let others := twin.handle timings another
    (mine.1.veiled = others.1.veiled ∧ mine.2.veiled = others.2.veiled) ∨
      Log.Parted (mine.2.log.map Prod.snd) (others.2.log.map Prod.snd) := by
  intro mine others
  have now : world.now = twin.now := (congrArg World.now same :)
  have coordinators : world.coordinator.veiled = twin.coordinator.veiled :=
    (congrArg World.coordinator same :)
  have whole (agree :
      covered Reply.veiled (world.coordinator.handle timings (.still world.now) command) =
        covered Reply.veiled (twin.coordinator.handle timings (.still twin.now) another)) :
      mine.1.veiled = others.1.veiled ∧ mine.2.veiled = others.2.veiled :=
    ⟨(congrArg Prod.fst agree :),
      carryOut_veiled same (congrArg (fun result => result.2.1) agree :)
        (congrArg (fun result => result.2.2) agree :)⟩
  cases answers : command.isAnswer with
  | false =>
    have neither : another.isAnswer = false := by
      rw [← another.isAnswer_veiled, ← commands, command.isAnswer_veiled, answers]
    refine Or.inl (whole ?_)
    rw [← handle_veiled _ _ _ answers, ← handle_veiled _ _ _ neither, coordinators, commands, now]
  | true =>
    obtain ⟨value, rfl, rfl⟩ := Command.eq_of_isAnswer answers commands
    rw [← now] at whole
    rcases submit_veiled coordinators timings world.now world.now value with
      alike | ⟨verdict, here, there⟩
    · exact Or.inl (whole (congrArg (fun result => (Reply.submitted result.1, result.2)) alike))
    · refine Or.inr ?_
      rw [events_handle, events_handle, ← now]
      exact Log.parted_of_last (allVerdicts_veiled same) here there

/-! ### Runs -/

theorem Apace.handle (apace : Apace world twin) {command another : Command}
    (commands : command.veiled = another.veiled) :
    Apace (world.handle timings command).2 (twin.handle timings another).2 :=
  apace.next (fun same => (handle_apace _ same commands).imp_left And.right)
    (world.log_handle command) (twin.log_handle another)

/-- All that waits in two mailboxes is handled. -/
theorem Apace.foldl_handle {commands others : List Command}
    (alike : commands.map Command.veiled = others.map Command.veiled) (apace : Apace world twin) :
    Apace (commands.foldl (fun current command => (current.handle timings command).2) world)
      (others.foldl (fun current command => (current.handle timings command).2) twin) := by
  induction commands generalizing others world twin with
  | nil =>
    obtain rfl := List.map_eq_nil_iff.mp alike.symm
    exact apace
  | cons command rest ih =>
    obtain ⟨another, more, rfl, first, later⟩ := List.map_eq_cons_iff.mp alike.symm
    rw [List.foldl_cons, List.foldl_cons]
    exact ih later.symm (apace.handle first.symm)

variable (sources : script.map Attempt.veiled = other.map Attempt.veiled)
include sources

theorem dueTasks_veiled (same : world.veiled = twin.veiled) :
    world.dueTasks timings script = twin.dueTasks timings other := by
  have now : world.now = twin.now := (congrArg World.now same :)
  have tasks : world.tasks = twin.tasks := (congrArg World.tasks same :)
  rw [dueTasks, dueTasks, dueAt_veiled sources, now, tasks]

theorem pass_apace (same : world.veiled = twin.veiled) :
    Apace (world.pass timings script) (twin.pass timings other) := by
  have now : world.now = twin.now := (congrArg World.now same :)
  have fired (tasks : List Task) :
      (tasks.foldl (fun current task =>
          current.fire timings task (outcomeOf script world.now task)) world).veiled =
        (tasks.foldl (fun current task =>
          current.fire timings task (outcomeOf other world.now task)) twin).veiled := by
    induction tasks using List.reverseRecOn with
    | nil => exact same
    | append_singleton tasks task ih =>
      rw [List.foldl_append, List.foldl_append]
      exact fire_veiled ih task (outcomeOf_veiled sources world.now task)
  rw [pass, pass, ← dueTasks_veiled sources same, ← now]
  have same := fired (world.dueTasks timings script)
  exact Apace.foldl_handle (congrArg World.mailbox same :)
    (Or.inl (congrArg (fun world => { world with mailbox := [] }) same :))

theorem Apace.settleWithin (apace : Apace world twin) (bound : Nat) :
    Apace (world.settleWithin timings script bound) (twin.settleWithin timings other bound) := by
  induction bound generalizing world twin with
  | zero => exact apace
  | succ bound ih =>
    refine apace.next (fun same => ?_) (log_settleWithin _ _ _) (log_settleWithin _ _ _)
    have waiting : world.mailbox.isEmpty = twin.mailbox.isEmpty := by
      have covered := congrArg (fun world => world.mailbox.isEmpty) same
      simpa only [veiled_mailbox, List.isEmpty_map] using covered
    rw [World.settleWithin, World.settleWithin, dueTasks_veiled sources same, waiting]
    split
    · exact Or.inl same
    · exact ih (pass_apace sources same)

theorem Apace.settle (apace : Apace world twin) :
    Apace (world.settle timings script) (twin.settle timings other) := by
  refine apace.next (fun same => ?_) (log_settleWithin _ _ _) (log_settleWithin _ _ _)
  have tasks : world.tasks = twin.tasks := (congrArg World.tasks same :)
  have bound : passBound script world = passBound other twin := by
    have calls : script.length = other.length := by
      simpa using congrArg List.length sources
    rw [passBound, passBound, calls, tasks]
  rw [World.settle, World.settle, bound]
  exact Apace.settleWithin sources (Or.inl same) _

/-- **A request keeps the pace, and is answered alike** unless the verdicts part. -/
theorem request_apace (timings : Timings) (same : world.veiled = twin.veiled) (command : Command) :
    let mine := world.request timings script command
    let others := twin.request timings other command
    (mine.1.veiled = others.1.veiled ∧ mine.2.veiled = others.2.veiled) ∨
      Log.Parted (mine.2.log.map Prod.snd) (others.2.log.map Prod.snd) := by
  intro mine others
  rcases handle_apace timings same (rfl : command.veiled = command.veiled) with
    ⟨replies, after⟩ | parted
  · exact (Apace.settle sources (Or.inl after)).imp_left fun settled => ⟨replies, settled⟩
  · refine Or.inr (parted.mono ?_ ?_)
    · exact (log_settleWithin script _ _).map _
    · exact (log_settleWithin other _ _).map _

theorem sleepUntil_apace (same : world.veiled = twin.veiled) (target now : Span) :
    Apace (world.sleepUntil timings script target now)
      (twin.sleepUntil timings other target now) := by
  have due {world twin : World} (same : world.veiled = twin.veiled) :
      twin.nextDue? timings other = world.nextDue? timings script := by
    have tasks : world.tasks = twin.tasks := (congrArg World.tasks same :)
    rw [nextDue?, nextDue?, tasks, dueAt_veiled sources]
  have later {world twin : World} (same : world.veiled = twin.veiled) (now : Span) :
      ({ world with now } : World).veiled = ({ twin with now } : World).veiled :=
    (congrArg (fun world => { world with now }) same :)
  fun_induction World.sleepUntil timings script target now world generalizing twin with
  | case1 now world none =>
    have nothing := (due same).trans none
    rw [World.sleepUntil, nothing]
    exact Or.inl (later same _)
  | case2 now world instant found next reached less closer =>
    rename_i ih
    have apace : Apace (({ world with now := next } : World).settle timings script) _ :=
      Apace.settle sources (Or.inl (later same next))
    rw [World.sleepUntil.eq_def timings other, (due same).trans found]
    dsimp only
    rw [dif_pos reached]
    exact apace.next ih (log_sleepUntil _ _ _ _) (log_sleepUntil _ _ _ _)
  | case3 now world instant found next =>
    rename_i missed
    rw [World.sleepUntil, (due same).trans found]
    dsimp only
    rw [dif_neg missed]
    exact Or.inl (later same _)

/-- **Letting time go by keeps the pace.** -/
theorem sleep_apace (same : world.veiled = twin.veiled) (span : Span) :
    Apace (world.sleep timings script span) (twin.sleep timings other span) := by
  have now : world.now = twin.now := (congrArg World.now same :)
  rw [sleep, sleep, ← now]
  exact sleepUntil_apace sources same _ _

end World
end Coordinator
end TimedQuiz
