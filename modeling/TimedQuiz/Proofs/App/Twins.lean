/-
**Two applications that differ in the solutions only.**

* `Aside`: what happens to an application without its world, such as a device opening a stream.
* `Twin`: two applications that are the same but for the solutions.
* `Together`: two results that look the same and leave twins, unless the verdicts part.
* `ask_together`: the coordinators of twins give answers that look the same.
-/

import TimedQuiz.App.Run
import TimedQuiz.Proofs.App.Conservation
import TimedQuiz.Proofs.Coordinator.Pace

namespace TimedQuiz

open Coordinator (Attempt Command Grading Loading Reply Script World)

namespace App

/-! ### What happens aside of the world -/

/-- The change leaves the world and the source alone, and does not look at them but for the time. -/
def Aside (change : App → App) : Prop :=
  ∀ (app : App) (world : World) (script : Script), world.now = app.world.now →
    change { app with world, script } = { change app with world, script }

namespace Aside

variable {change : App → App}

theorem world_eq (aside : Aside change) (app : App) : (change app).world = app.world :=
  (congrArg App.world (aside app app.world app.script rfl) :)

theorem script_eq (aside : Aside change) (app : App) : (change app).script = app.script :=
  (congrArg App.script (aside app app.world app.script rfl) :)

theorem comp {second : App → App} (aside : Aside change) (later : Aside second) :
    Aside fun app => second (change app) := by
  intro app world script now
  refine (congrArg second (aside app world script now)).trans ?_
  exact later (change app) world script (now.trans (congrArg World.now (aside.world_eq app).symm))

theorem foldl {α : Type} {changes : α → App → App} (aside : ∀ entry, Aside (changes entry))
    (entries : List α) :
    Aside fun app => entries.foldl (fun current entry => changes entry current) app := by
  induction entries with
  | nil => exact fun _ _ _ _ => rfl
  | cons entry rest ih => exact (aside entry).comp ih

end Aside

theorem hear_aside (wall : Timestamp) (event : Event) (observer : Observer) :
    Aside fun app => hear wall event app observer := by
  intro app world script now
  cases observer with
  | feed => rfl
  | recorder => rfl
  | cues =>
    unfold hear
    dsimp only
    cases app.sound.hear event with
    | mk cue sound => cases cue <;> rfl

theorem announce_aside (instant : Span) (event : Event) :
    Aside fun app => app.announce instant event := fun app =>
  Aside.foldl (fun registration : Registration Observer =>
    hear_aside (app.wallAt instant) event registration.listener) (app.bus.recipients event) app

theorem drain_aside (instant : Span) : Aside fun app => app.drain instant :=
  fun _ _ _ _ => rfl

theorem tell_aside (entry : Span × Event) : Aside fun app => app.tell entry :=
  (announce_aside entry.1 entry.2).comp (drain_aside entry.1)

theorem flush_aside : Aside flush := by
  intro app world script now
  unfold flush
  rw [show ({ app with world, script } : App).now = app.now from now]
  rfl

theorem openStream_aside (device : String) : Aside fun app => app.openStream device := by
  intro app world script now
  have same : ({ app with world, script } : App).now = app.now := now
  simp only [openStream, same]

theorem updateDegraded_aside (value : Bool) : Aside fun app => app.updateDegraded value := by
  intro app world script now
  simp only [updateDegraded]
  split <;> rfl

theorem installed_aside (installed : Option Store.Faults) :
    Aside fun app => { app with storage := { app.storage with installed } } :=
  fun _ _ _ _ => rfl

theorem install_aside (faults : Store.Faults) : Aside fun app => app.install faults :=
  (installed_aside (some faults)).comp (updateDegraded_aside false)

theorem remove_aside : Aside remove := (installed_aside none).comp (updateDegraded_aside true)

theorem readStream_aside (device : String) : Aside fun app => (app.readStream device).2 := by
  intro app world script now
  have same : ({ app with world, script } : App).now = app.now := now
  simp only [readStream, same]
  split <;> rfl

/-! ### Listeners hear nothing of a solution -/

theorem hear_veiled (wall : Timestamp) (event : Event) (app : App) (observer : Observer) :
    hear wall event.veiled app observer = hear wall event app observer := by
  cases event <;> cases observer <;> rfl

theorem tell_veiled (app : App) (instant : Span) (event : Event) :
    app.tell (instant, event.veiled) = app.tell (instant, event) := by
  have recipients : app.bus.recipients event.veiled = app.bus.recipients event := by
    cases event <;> rfl
  rw [tell, tell, announce, announce, recipients]
  simp only [hear_veiled]

theorem foldl_tell_veiled (app : App) {entries others : List (Span × Event)}
    (alike : entries.map (fun entry => (entry.1, entry.2.veiled)) =
      others.map fun entry => (entry.1, entry.2.veiled)) :
    entries.foldl tell app = others.foldl tell app := by
  have uncovered (entries : List (Span × Event)) : entries.foldl tell app =
      (entries.map fun entry => (entry.1, entry.2.veiled)).foldl tell app := by
    rw [List.foldl_map]
    simp only [tell_veiled]
  rw [uncovered entries, uncovered others, alike]

/-! ### Twins -/

/-- The applications are the same but for the solutions. -/
def Twin (app twin : App) : Prop :=
  ∃ world script, twin = { app with world, script } ∧ app.world.veiled = world.veiled ∧
    app.script.map Attempt.veiled = script.map Attempt.veiled

variable {app twin : App}

theorem Twin.aside (twins : Twin app twin) {change : App → App} (aside : Aside change) :
    Twin (change app) (change twin) := by
  obtain ⟨world, script, rfl, worlds, scripts⟩ := twins
  have now : app.world.now = world.now := (congrArg World.now worlds :)
  exact ⟨world, script, aside app world script now.symm, (aside.world_eq app).symm ▸ worlds,
    (aside.script_eq app).symm ▸ scripts⟩

/-- What the world told meanwhile is heard alike. -/
theorem Twin.follow (twins : Twin app twin) {world other : World}
    (worlds : world.veiled = other.veiled) : Twin (app.follow world) (twin.follow other) := by
  obtain ⟨before, script, rfl, same, scripts⟩ := twins
  have told : app.world.log.length = before.log.length := by
    have covered := congrArg (fun world => world.log.length) same
    simpa only [World.veiled_log, List.length_map] using covered
  have news : (world.log.drop app.world.log.length).map (fun entry => (entry.1, entry.2.veiled)) =
      (other.log.drop before.log.length).map fun entry => (entry.1, entry.2.veiled) := by
    rw [List.map_drop, List.map_drop, told]
    exact (congrArg (fun world => world.log.drop before.log.length) worlds :)
  rw [follow_eq, follow_eq, ← foldl_tell_veiled _ news]
  have begun : Twin { app with world } { app with world := other, script } :=
    ⟨other, script, rfl, worlds, scripts⟩
  exact begun.aside (Aside.foldl tell_aside _)

/-- Two results are the same in a view and leave twins, unless the verdicts have parted. -/
def Together {α β : Type} (view : α → β) (mine others : α × App) : Prop :=
  (view mine.1 = view others.1 ∧ Twin mine.2 others.2) ∨
    Log.Parted mine.2.events others.2.events

/-! ### The log only grows -/

theorem world_follow (app : App) (world : World) : (app.follow world).world = world :=
  (Aside.foldl tell_aside _).world_eq _

theorem events_follow (app : App) (world : World) :
    (app.follow world).events = world.log.map Prod.snd := by
  rw [events, world_follow]

section Growth

variable (app : App)

theorem events_aside {change : App → App} (aside : Aside change) :
    app.events <+: (change app).events := by
  have same : (change app).events = app.events := by rw [events, aside.world_eq, events]
  exact same ▸ List.prefix_rfl

theorem events_ask (command : Command) : app.events <+: (app.ask command).2.events := by
  rw [ask, events_follow]
  exact (app.world.log_request app.script command).map _

theorem events_sleep (span : Span) : app.events <+: (app.sleep span).events := by
  rw [sleep, events_follow]
  exact (app.world.log_sleep app.script span).map _

theorem events_andThen {α β : Type} {first : Except Trouble α × App}
    {second : α → App → Except Trouble β × App} (grown : app.events <+: first.2.events)
    (later : ∀ value (next : App), next.events <+: (second value next).2.events) :
    app.events <+: (andThen first second).2.events := by
  obtain ⟨_ | value, next⟩ := first
  · exact grown
  · exact grown.trans (later value next)

theorem events_respond {α : Type} (result : Except Trouble α × App) (write : α → Http.Response) :
    (respond result write).2.events = result.2.events := by
  obtain ⟨_ | value, next⟩ := result <;> rfl

theorem events_look : app.events <+: app.look.2.events := look_next app ▸ app.events_ask .look

theorem events_startRound (player : Player) :
    app.events <+: (app.startRound player).2.events :=
  startRound_next app player ▸ app.events_ask (.start player)

theorem events_stored {α : Type} (service : Service α) :
    app.events <+: (app.serveStored service).2.events := List.prefix_rfl

end Growth

/-! ### One thing after the other -/

namespace Together

variable {α β γ δ : Type} {view : α → β} {mine others : α × App}

/-- What is made of the results without a look at the solutions is the same as well. -/
theorem map (together : Together view mine others) (make : α → γ) (shown : γ → δ)
    (blind : ∀ first second, view first = view second → shown (make first) = shown (make second)) :
    Together shown (make mine.1, mine.2) (make others.1, others.2) :=
  together.imp_left fun same => ⟨blind _ _ same.1, same.2⟩

theorem andThen {mine others : Except Trouble α × App} {shown : γ → δ}
    (together : Together (Except.map view) mine others)
    {second : α → App → Except Trouble γ × App}
    (later : ∀ (one other : α) (next twin : App), view one = view other → Twin next twin →
      Together (Except.map shown) (second one next) (second other twin))
    (grown : ∀ value (next : App), next.events <+: (second value next).2.events) :
    Together (Except.map shown) (App.andThen mine second) (App.andThen others second) := by
  obtain ⟨first, app⟩ := mine
  obtain ⟨result, twin⟩ := others
  rcases together with ⟨same, twins⟩ | parted
  · cases first with
    | error trouble =>
      cases result with
      | error other => exact Or.inl ⟨congrArg Except.error (Except.error.inj same), twins⟩
      | ok value => cases same
    | ok one =>
      cases result with
      | error trouble => cases same
      | ok other => exact later one other app twin (Except.ok.inj same) twins
  · refine Or.inr (parted.mono ?_ ?_)
    · exact app.events_andThen List.prefix_rfl grown
    · exact twin.events_andThen List.prefix_rfl grown

/-- The response shows what can be seen under the veil. -/
theorem respond {mine others : Except Trouble α × App}
    (together : Together (Except.map view) mine others) {write : α → Http.Response}
    (blind : ∀ one other, view one = view other → write one = write other) :
    Together id (App.respond mine write) (App.respond others write) := by
  obtain ⟨first, app⟩ := mine
  obtain ⟨result, twin⟩ := others
  rcases together with ⟨same, twins⟩ | parted
  · cases first with
    | error trouble =>
      cases result with
      | error other => exact Or.inl ⟨congrArg refuse (Except.error.inj same), twins⟩
      | ok value => cases same
    | ok one =>
      cases result with
      | error trouble => cases same
      | ok other => exact Or.inl ⟨blind one other (Except.ok.inj same), twins⟩
  · refine Or.inr ?_
    rwa [events_respond, events_respond]

theorem respond_same {mine others : Except Trouble α × App}
    (together : Together (Except.map id) mine others) (write : α → Http.Response) :
    Together id (App.respond mine write) (App.respond others write) :=
  together.respond fun _ _ same => congrArg write same

end Together

end App

namespace Coordinator.Reply

/-- The reply as a view of the round. -/
def asView : Reply → Except Trouble Snapshot
  | seen snapshot => .ok snapshot
  | _ => .error .stopped

/-- The reply as the outcome of a start. -/
def asOpening : Reply → Except Trouble Snapshot
  | started (.ok snapshot) => .ok snapshot
  | started (.error refusal) => .error (.ofInvalidTransition refusal)
  | _ => .error .stopped

/-- The reply as what became of an answer. -/
def asGrading : Reply → Except Trouble Grading
  | submitted grading => .ok grading
  | _ => .error .stopped

/-- The reply as what became of a request for the next puzzle. -/
def asLoading : Reply → Except Trouble Loading
  | requested loading => .ok loading
  | _ => .error .stopped

/-- The reply as whether the round was ended. -/
def asEnd : Reply → Except Trouble Bool
  | finished ended => .ok ended
  | _ => .error .stopped

variable {reply other : Reply} (same : reply.veiled = other.veiled)
include same

theorem asView_veiled : reply.asView.map Snapshot.veiled = other.asView.map Snapshot.veiled := by
  have covered (reply : Reply) : reply.asView.map Snapshot.veiled = reply.veiled.asView := by
    cases reply <;> rfl
  rw [covered, covered, same]

theorem asOpening_veiled :
    reply.asOpening.map Snapshot.veiled = other.asOpening.map Snapshot.veiled := by
  have covered (reply : Reply) : reply.asOpening.map Snapshot.veiled = reply.veiled.asOpening := by
    cases reply with
    | started result => cases result <;> rfl
    | _ => rfl
  rw [covered, covered, same]

theorem asGrading_veiled : reply.asGrading = other.asGrading := by
  have covered (reply : Reply) : reply.asGrading = reply.veiled.asGrading := by cases reply <;> rfl
  rw [covered, same, ← covered]

theorem asLoading_veiled : reply.asLoading = other.asLoading := by
  have covered (reply : Reply) : reply.asLoading = reply.veiled.asLoading := by cases reply <;> rfl
  rw [covered, same, ← covered]

theorem asEnd_veiled : reply.asEnd = other.asEnd := by
  have covered (reply : Reply) : reply.asEnd = reply.veiled.asEnd := by cases reply <;> rfl
  rw [covered, same, ← covered]

end Coordinator.Reply

namespace App

/-! ### What the coordinator is asked -/

section Asked

variable (app : App)

theorem look_eq : app.look = ((app.ask .look).1.asView, (app.ask .look).2) := by
  unfold look
  rcases app.ask .look with ⟨reply, next⟩
  cases reply <;> rfl

theorem startRound_eq (player : Player) :
    app.startRound player =
      ((app.ask (.start player)).1.asOpening, (app.ask (.start player)).2) := by
  unfold startRound
  rcases app.ask (.start player) with ⟨reply, next⟩
  cases reply with
  | started result => cases result <;> rfl
  | _ => rfl

theorem submit_eq (value : Int) :
    app.submit value = ((app.ask (.submit value)).1.asGrading, (app.ask (.submit value)).2) := by
  unfold submit
  rcases app.ask (.submit value) with ⟨reply, next⟩
  cases reply <;> rfl

theorem skip_eq : app.skip = ((app.ask .next).1.asLoading, (app.ask .next).2) := by
  unfold skip
  rcases app.ask .next with ⟨reply, next⟩
  cases reply <;> rfl

theorem finish_eq : app.finish = ((app.ask .finish).1.asEnd, (app.ask .finish).2) := by
  unfold finish
  rcases app.ask .finish with ⟨reply, next⟩
  cases reply <;> rfl

end Asked

section Answered

variable {app twin : App} (twins : Twin app twin)
include twins

/-- Worlds that keep pace leave twins, unless the verdicts part. -/
theorem follow_apace {world other : World} (apace : world.Apace other) :
    Twin (app.follow world) (twin.follow other) ∨
      Log.Parted (app.follow world).events (twin.follow other).events := by
  refine apace.imp twins.follow fun parted => ?_
  rwa [events_follow, events_follow]

/-- **Twins are answered alike by their coordinators**, unless the verdicts part. -/
theorem ask_together (command : Command) :
    Together Reply.veiled (app.ask command) (twin.ask command) := by
  obtain ⟨world, script, rfl, worlds, scripts⟩ := id twins
  rcases World.request_apace scripts app.timings worlds command with ⟨replies, after⟩ | parted
  · exact Or.inl ⟨replies, twins.follow after⟩
  · refine Or.inr ?_
    rw [ask, ask, events_follow, events_follow]
    exact parted

theorem look_together : Together (Except.map Snapshot.veiled) app.look twin.look := by
  rw [look_eq, look_eq]
  exact (ask_together twins .look).map Reply.asView _ fun _ _ => Reply.asView_veiled

theorem startRound_together (player : Player) :
    Together (Except.map Snapshot.veiled) (app.startRound player) (twin.startRound player) := by
  rw [startRound_eq, startRound_eq]
  exact (ask_together twins _).map Reply.asOpening _ fun _ _ => Reply.asOpening_veiled

theorem submit_together (value : Int) :
    Together (Except.map id) (app.submit value) (twin.submit value) := by
  rw [submit_eq, submit_eq]
  exact (ask_together twins _).map Reply.asGrading _ fun _ _ same =>
    congrArg _ (Reply.asGrading_veiled same)

theorem skip_together : Together (Except.map id) app.skip twin.skip := by
  rw [skip_eq, skip_eq]
  exact (ask_together twins _).map Reply.asLoading _ fun _ _ same =>
    congrArg _ (Reply.asLoading_veiled same)

theorem finish_together : Together (Except.map id) app.finish twin.finish := by
  rw [finish_eq, finish_eq]
  exact (ask_together twins _).map Reply.asEnd _ fun _ _ same =>
    congrArg _ (Reply.asEnd_veiled same)

/-- A service sees the store only. -/
theorem serveStored_together {α : Type} (service : Service α) :
    Together (Except.map id) (app.serveStored service) (twin.serveStored service) := by
  obtain ⟨world, script, rfl, worlds, scripts⟩ := twins
  exact Or.inl ⟨rfl, world, script, rfl, worlds, scripts⟩

theorem wall_eq : twin.wall = app.wall := by
  obtain ⟨world, script, rfl, worlds, -⟩ := twins
  have now : app.world.now = world.now := (congrArg World.now worlds :)
  exact congrArg app.epoch.after now.symm

end Answered

end App
end TimedQuiz
