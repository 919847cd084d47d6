/-
**What every input comes down to.**

Whatever the application receives, it only follows its coordinator, waits for the recorder, runs
services on the storage, and keeps something for its cues and streams. So a relation between the
state before and the state after that holds across each of these holds across every input:

* `Across.perform`, `Across.receive`: the relation holds across every action and every input.

Registering is the one service for which the relation is shown where it is needed, since it is the
one that lays something new down.
-/

import TimedQuiz.App.Run
import TimedQuiz.Proofs.App.Conservation

namespace TimedQuiz.App

open Coordinator (World)

theorem respond_next {α : Type} (result : Except Trouble α × App) (write : α → Http.Response) :
    (respond result write).2 = result.2 := by
  obtain ⟨_ | value, next⟩ := result <;> rfl

/-- The relation holds across everything that inputs come down to, registrations apart. -/
structure Across (related : App → App → Prop) : Prop where
  refl : ∀ app, related app app
  trans : ∀ {first second third}, related first second → related second third →
    related first third
  follow : ∀ (app : App) {world : World}, app.world.log <+: world.log →
    related app (app.follow world)
  flush : ∀ app : App, related app app.flush
  authenticate : ∀ (app : App) (wall : Timestamp) (credentials : Credentials),
    related app (app.serveStored (Account.authenticate wall credentials)).2
  aside : ∀ (app : App) (sound : Sound) (streams : List (String × Feed.Stream)),
    related app { app with sound, streams }

namespace Across

variable {related : App → App → Prop} (across : Across related) (app : App)
include across

theorem ask (command : Coordinator.Command) : related app (app.ask command).2 :=
  across.follow app (app.world.log_request app.script command)

theorem look : related app app.look.2 := by
  rw [look_next]
  exact across.ask app _

/-- What only reads leaves everything as it was. -/
theorem reads {α : Type} {service : Service α} (reads : service.Reads) :
    related app (app.serveStored service).2 := by
  rw [serveStored_eq, reads]
  exact across.refl app

omit across in
theorem respond {α : Type} {result : Except Trouble α × App} (done : related app result.2)
    (write : α → Http.Response) : related app (App.respond result write).2 := by
  rwa [respond_next]

theorem andThen {α β : Type} {first : Except Trouble α × App}
    {second : α → App → Except Trouble β × App} (begun : related app first.2)
    (later : ∀ value (next : App), related next (second value next).2) :
    related app (App.andThen first second).2 := by
  obtain ⟨_ | value, next⟩ := first
  · exact begun
  · exact across.trans begun (later value next)

/-- **The relation holds across every action**, if it does across a registration. -/
theorem perform (action : Action)
    (register : ∀ credentials, action = .register credentials →
      related app (app.serveStored (Account.register app.wall credentials)).2) :
    related app (app.perform action).2 := by
  cases action with
  | health => exact across.look app
  | openFeed => exact across.refl app
  | register credentials => exact respond app (register credentials rfl) _
  | login credentials => exact respond app (across.authenticate app _ credentials) _
  | start credentials =>
    refine respond app (across.andThen app ?_ fun record next => ?_) _
    · exact across.trans (across.flush app) (across.authenticate app.flush _ credentials)
    · rw [startRound_next]
      exact across.ask next _
  | look => exact respond app (across.look app) _
  | answer value =>
    refine respond app (across.andThen app ?_ fun grading next => ?_) _
    · rw [submit_next]
      exact across.ask app _
    · exact across.andThen next (across.look next) fun _ last => across.refl last
  | skip =>
    refine respond app ?_ _
    rw [skip_next]
    exact across.ask app _
  | finish =>
    refine respond app (across.andThen app ?_ fun ended next => ?_) _
    · rw [finish_next]
      exact across.ask app _
    · exact across.andThen next (across.look next) fun _ last => across.refl last
  | mute muted => exact across.aside app _ app.streams
  | picture =>
    refine respond app (across.andThen app (across.look app) fun snapshot next => ?_) _
    split <;> exact across.refl next
  | board limit => exact respond app (across.reads app (Leaderboard.top_reads limit)) _
  | standing username =>
    exact respond app (across.reads app (Leaderboard.standing_reads username)) _

/-- **The relation holds across every input**, if it does across a registration. -/
theorem receive (input : Input)
    (register : ∀ request credentials, input = .request request →
      Action.ofRequest request = .ok (.register credentials) →
      related app (app.serveStored (Account.register app.wall credentials)).2) :
    related app (app.receive input) := by
  cases input with
  | request request =>
    simp only [App.receive, serve]
    split
    · exact across.refl app
    · rename_i action asked
      refine across.perform app action fun credentials same => ?_
      exact register request credentials rfl (same ▸ asked)
  | sleep span => exact across.follow app (app.world.log_sleep app.script span)
  | connect device => exact across.aside app app.sound _
  | read device =>
    simp only [App.receive, readStream]
    split
    · exact across.refl app
    · exact across.aside app app.sound _
  | disconnect device => exact across.aside app app.sound _

end Across
end TimedQuiz.App
