/-
**What the listeners make of an event.**

Of all listeners only the recorder has to do with the store, and the recorder's worker writes at
once what has been queued.

* `announce_eq_handed`: listeners that do not act on the bus are handed what `Bus.Desk` notes.
* `tell_eq`: an event is written to the store before the next one is told.
* `follow_eq`: following the coordinator's world is telling its new events one by one.
-/

import TimedQuiz.App.Basic
import TimedQuiz.Proofs.Bus.Story
import TimedQuiz.Proofs.Recorder

namespace TimedQuiz.App

open Store

variable {app : App}

/-- Two states of the application that differ only in what listeners keep for themselves. -/
structure Alike (app other : App) : Prop where
  world : other.world = app.world
  bus : other.bus = app.bus
  storage : other.storage = app.storage
  epoch : other.epoch = app.epoch

theorem Alike.trans {first second third : App} (former : Alike first second)
    (latter : Alike second third) : Alike first third where
  world := latter.world.trans former.world
  bus := latter.bus.trans former.bus
  storage := latter.storage.trans former.storage
  epoch := latter.epoch.trans former.epoch

theorem hear_alike (wall : Timestamp) (event : Event) (app : App) (observer : Observer) :
    Alike app (hear wall event app observer) := by
  cases observer with
  | feed => exact ⟨rfl, rfl, rfl, rfl⟩
  | recorder => exact ⟨rfl, rfl, rfl, rfl⟩
  | cues =>
    unfold hear
    dsimp only
    split <;> exact ⟨rfl, rfl, rfl, rfl⟩

/-- Listeners do not get in each other's way. -/
theorem hear_recorder (wall : Timestamp) (event : Event) (app : App) (observer : Observer) :
    (hear wall event app observer).recorder =
      if observer = .recorder then app.recorder.hear wall event else app.recorder := by
  cases observer with
  | feed => rfl
  | recorder => rfl
  | cues =>
    unfold hear
    dsimp only
    split <;> rfl

theorem announce_alike (app : App) (instant : Span) (event : Event) :
    Alike app (app.announce instant event) := by
  refine List.foldlRecOn _ _ ⟨rfl, rfl, rfl, rfl⟩ fun current alike registration _ => ?_
  exact alike.trans (hear_alike _ event current registration.listener)

/-- Who hears of an event, in order. -/
theorem listeners_standard (event : Event) :
    (standardBus.recipients event).map Registration.listener =
      .feed :: ((if event.kind ∈ Sound.kinds then [.cues] else []) ++
        if event.kind ∈ Recorder.kinds then [.recorder] else []) := by
  cases event <;> rfl

/-- The recorder hears of every event that it has a job for. -/
theorem announce_recorder (standard : app.bus = standardBus) (instant : Span) (event : Event) :
    (app.announce instant event).recorder = app.recorder.hear (app.wallAt instant) event := by
  have passed : app.announce instant event =
      ((standardBus.recipients event).map Registration.listener).foldl
        (hear (app.wallAt instant) event) app := by
    rw [announce, standard, List.foldl_map]
  rw [passed, listeners_standard]
  -- Where the recorder does not listen, it would have had nothing to queue.
  cases event <;> simp [Event.kind, Sound.kinds, Recorder.kinds, hear_recorder] <;> rfl

/-! ### Listeners that only listen -/

/-- The listeners of a bus sit at a desk, in the same order and under names. -/
def SeatedAt (bus : Bus Observer) (desk : Bus.Desk) (called : String → Observer) : Prop :=
  ∀ kind, bus.registrations kind = (desk.bus.registrations kind).map fun registration =>
    { id := registration.id, listener := called registration.listener }

theorem log_note_all (desk : Bus.Desk) (event : Event) (recipients : List (Registration String)) :
    (recipients.foldl (fun current entry => current.note (.delivered entry.listener event))
      desk).log =
        desk.log ++ recipients.map fun entry => Bus.Entry.delivered entry.listener event := by
  induction recipients generalizing desk with
  | nil => exact (List.append_nil _).symm
  | cons first rest ih =>
    rw [List.foldl_cons, ih, Bus.Desk.note, List.map_cons, List.append_assoc, List.singleton_append]

/-- **Listeners that do not act on the bus are handed what is published as the application hands it
to its own**: whom, what and in which order a desk notes, the application tells its observers. -/
theorem announce_eq_handed {desk : Bus.Desk} {called : String → Observer}
    (seated : SeatedAt app.bus desk called) (idle : desk.pendingReactions = 0) (instant : Span)
    (event : Event) :
    ∃ handed : List (String × Event),
      (desk.act (.publish event)).2.log =
          desk.log ++ handed.map (fun entry => .delivered entry.1 entry.2) ∧
        app.announce instant event = handed.foldl (fun current entry =>
          hear (app.wallAt instant) entry.2 current (called entry.1)) app := by
  refine ⟨(desk.bus.recipients event).map fun registration => (registration.listener, event),
    ?_, ?_⟩
  · have noted := Bus.Desk.foldl_deliver_of_idle (Bus.Desk.perform desk.pendingReactions) event
      (desk.bus.recipients event) idle
    rw [List.map_map]
    exact (congrArg Bus.Desk.log noted).trans (log_note_all desk event _)
  · rw [announce, Bus.recipients, seated, List.foldl_map, List.foldl_map, Bus.recipients]

/-- The listeners of the application at a desk. -/
example :
    let called : String → Observer := fun name =>
      if name = "feed" then .feed else if name = "cues" then .cues else .recorder
    let desk := (({} : Bus.Desk).actAll [.subscribe "feed" Event.Kind.all [],
      .subscribe "cues" Sound.kinds [], .subscribe "recorder" Recorder.kinds []]).2
    SeatedAt standardBus desk called ∧ desk.pendingReactions = 0 := by
  refine ⟨fun kind => ?_, by decide⟩
  cases kind <;> decide

/-! ### What is written of an event -/

/-- Tells one event and lets the recorder's worker write. -/
def tell (app : App) (entry : Span × Event) : App :=
  (app.announce entry.1 entry.2).drain entry.1

/-- **What the recorder has to write of an event is written before the next one is told.** -/
theorem tell_eq (standard : app.bus = standardBus) (idle : app.recorder.queue = [])
    (healthy : app.storage.installed = some {}) (instant : Span) (event : Event) :
    let wall := app.wallAt instant
    let told := app.tell (instant, event)
    told.world = app.world ∧ told.bus = app.bus ∧
      told.recorder =
        { app.recorder with
          nextResult := app.recorder.nextResult +
            (Recorder.jobOf? app.recorder.nextResult wall event).isSome.toNat } ∧
      told.storage =
        { app.storage with
          memory := Recorder.recorded app.recorder.nextResult wall event app.storage.memory } := by
  have alike := app.announce_alike instant event
  have written := Recorder.drain_hear idle healthy (app.wallAt instant) event
  rw [← app.announce_recorder standard, ← alike.storage] at written
  have wall : (app.announce instant event).wallAt instant = app.wallAt instant := by
    rw [wallAt, alike.epoch, wallAt]
  simp only [tell, drain, wall, written]
  exact ⟨alike.world, alike.bus, trivial, by rw [alike.storage]⟩

theorem follow_eq (app : App) (world : Coordinator.World) :
    app.follow world =
      (world.log.drop app.world.log.length).foldl tell ({ app with world } : App) := rfl

end TimedQuiz.App
