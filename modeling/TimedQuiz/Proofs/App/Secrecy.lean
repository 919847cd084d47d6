/-
**The solutions never leak.**

Two applications are told the same from outside, and their sources answer alike but for the
solutions. Whoever watches them sees every answer to a request, every message of the live feed and
everything that is stored.

A store need not keep the players in any order, so they may be rearranged at any time, and are then
gone through in the new order in both applications.

* `perform_together`, `meet_together`: whatever happens to twins is answered alike, unless the
  verdicts part.
* `watch_eq_of_veiled`: as long as all verdicts agree, there is no difference to be seen.
-/

import TimedQuiz.Proofs.App.Twins

namespace TimedQuiz.App

open Coordinator (Attempt Script World)

/-! ### What is seen from outside -/

/-- An order in which a store goes through its players. -/
structure Arrangement where
  arrange : List (String × Store.PlayerRecord) → List (String × Store.PlayerRecord)
  perm : ∀ rows, (arrange rows).Perm rows

/-- The players of the store are gone through in another order from now on. -/
def rearrange (arrangement : Arrangement) (app : App) : App :=
  let memory := app.storage.memory
  let players : Store.Table String Store.PlayerRecord :=
    { rows := arrangement.arrange memory.players.rows
      distinct := ((arrangement.perm _).map _).nodup_iff.mpr memory.players.distinct }
  { app with storage := { app.storage with memory := { memory with players } } }

/-- What happens to the application from outside. -/
inductive Occurrence
  | input (input : Input)
  /-- A store is put in place; it may fail in some calls. -/
  | install (faults : Store.Faults)
  | remove
  | rearrange (arrangement : Arrangement)

/-- How it is answered. -/
inductive Answer
  | response (response : Http.Response)
  /-- What a device reads; nothing when its stream is not open. -/
  | deliveries (deliveries : Option (List Feed.Delivery))
  /-- A stream was open, and is closed. -/
  | closed (wasOpen : Bool)
  | silent

/-- The application meets with an occurrence. -/
def meet (app : App) : Occurrence → Answer × App
  | .input (.request request) =>
    let (response, next) := app.serve request
    (.response response, next)
  | .input (.sleep span) => (.silent, app.sleep span)
  | .input (.connect device) => (.silent, app.openStream device)
  | .input (.read device) =>
    let (deliveries, next) := app.readStream device
    (.deliveries deliveries, next)
  | .input (.disconnect device) =>
    let (wasOpen, next) := app.closeStream device
    (.closed wasOpen, next)
  | .install faults => (.silent, app.install faults)
  | .remove => (.silent, app.remove)
  | .rearrange arrangement => (.silent, app.rearrange arrangement)

/-- What can be seen after an occurrence. -/
structure Sight where
  answer : Answer
  /-- Every message sent to the devices so far. -/
  sent : Array Feed.Message
  storage : Store.Storage

/-- What can be seen after each of some occurrences. -/
def watch (app : App) : List Occurrence → List Sight
  | [] => []
  | occurrence :: later =>
    let (answer, next) := app.meet occurrence
    { answer, sent := next.hub.sent, storage := next.storage } :: next.watch later

/-- The application after some occurrences. -/
def after (app : App) (occurrences : List Occurrence) : App :=
  occurrences.foldl (fun current occurrence => (current.meet occurrence).2) app

/-- All verdicts so far. -/
def verdicts (app : App) : List Bool := Log.allVerdicts app.events

/-- The inputs are met as before. -/
theorem meet_input (app : App) (input : Input) :
    (app.meet (.input input)).2 = app.receive input := by
  cases input <;> rfl

theorem rearrange_aside (arrangement : Arrangement) :
    Aside fun app => app.rearrange arrangement := fun _ _ _ _ => rfl

/-! ### The log only grows -/

section Growth

variable (app : App)

theorem events_perform (action : Action) : app.events <+: (app.perform action).2.events := by
  cases action with
  | health => exact app.events_look
  | start credentials =>
    rw [perform, events_respond]
    refine app.events_andThen ?_ fun record next => next.events_startRound _
    exact (app.events_aside flush_aside).trans (events_stored _ _)
  | look =>
    rw [perform, events_respond]
    exact app.events_look
  | answer value =>
    rw [perform, events_respond]
    refine app.events_andThen ?_ fun grading next =>
      next.events_andThen next.events_look fun _ _ => List.prefix_rfl
    rw [submit_next]
    exact app.events_ask _
  | skip =>
    rw [perform, events_respond, skip_next]
    exact app.events_ask _
  | finish =>
    rw [perform, events_respond]
    refine app.events_andThen ?_ fun ended next =>
      next.events_andThen next.events_look fun _ _ => List.prefix_rfl
    rw [finish_next]
    exact app.events_ask _
  | picture =>
    rw [perform, events_respond]
    refine app.events_andThen app.events_look fun snapshot next => ?_
    split <;> exact List.prefix_rfl
  | openFeed => exact List.prefix_rfl
  | mute muted => exact List.prefix_rfl
  | _ =>
    rw [perform, events_respond]
    exact app.events_stored _

/-- **Nothing that was told is taken back.** -/
theorem events_meet (occurrence : Occurrence) :
    app.events <+: (app.meet occurrence).2.events := by
  cases occurrence with
  | install faults => exact app.events_aside (install_aside faults)
  | remove => exact app.events_aside remove_aside
  | rearrange arrangement => exact app.events_aside (rearrange_aside arrangement)
  | input input =>
    rw [meet_input]
    cases input with
    | request request =>
      simp only [receive, serve]
      split
      · exact List.prefix_rfl
      · exact app.events_perform _
    | sleep span => exact app.events_sleep span
    | connect device => exact app.events_aside (openStream_aside device)
    | read device => exact app.events_aside (readStream_aside device)
    | disconnect device => exact List.prefix_rfl

theorem events_after (occurrences : List Occurrence) :
    app.events <+: (app.after occurrences).events := by
  refine List.foldlRecOn (motive := fun later : App => app.events <+: later.events) _ _
    List.prefix_rfl fun later grown occurrence _ => ?_
  exact grown.trans (later.events_meet occurrence)

end Growth

/-! ### Responses -/

/-- A view is written without the solution. -/
theorem toJson_veiled {snapshot other : Snapshot} (same : snapshot.veiled = other.veiled) :
    snapshot.toJson = other.toJson := by
  have covered (snapshot : Snapshot) : snapshot.toJson = snapshot.veiled.toJson := by
    unfold Snapshot.toJson Snapshot.veiled
    cases snapshot.puzzle <;> rfl
  rw [covered, same, ← covered]

/-- A picture is served without the solution. -/
theorem pictureResponse_veiled {puzzle other : Puzzle} (same : puzzle.veiled = other.veiled) :
    pictureResponse puzzle = pictureResponse other := by
  have image : puzzle.image = other.image := (congrArg Puzzle.image same :)
  rw [pictureResponse, pictureResponse, Puzzle.contentType, Puzzle.contentType, image]

/-- An outcome beside a view of the round. -/
def besides {α : Type} (result : α × Snapshot) : α × Snapshot := (result.1, result.2.veiled)

theorem andLook_together {α : Type} {mine others : Except Trouble α × App}
    (together : Together (Except.map id) mine others) :
    let look := fun (value : α) (next : App) =>
      andThen next.look fun snapshot last => (.ok (value, snapshot), last)
    Together (Except.map besides) (andThen mine look) (andThen others look) := by
  intro look
  refine together.andThen (fun value other next twin same twins => ?_) fun value next =>
    next.events_andThen next.events_look fun _ _ => List.prefix_rfl
  obtain rfl : value = other := same
  refine (look_together twins).andThen (fun snapshot other next twin same twins => ?_) fun _ _ =>
    List.prefix_rfl
  exact Or.inl ⟨congrArg (fun snapshot => Except.ok (value, snapshot)) same, twins⟩

section Responses

variable {app twin : App} (twins : Twin app twin)
include twins

theorem currentPuzzle_together :
    Together (Except.map Puzzle.veiled) app.currentPuzzle twin.currentPuzzle := by
  refine (look_together twins).andThen (fun snapshot other next twin same twins => ?_)
    fun snapshot next => ?_
  · rcases none_or_some_of_map_eq (congrArg Snapshot.puzzle same :) with
      ⟨mine, others⟩ | ⟨puzzle, another, mine, others, covered⟩
    · rw [mine, others]
      exact Or.inl ⟨rfl, twins⟩
    · rw [mine, others]
      exact Or.inl ⟨congrArg Except.ok covered, twins⟩
  · split <;> exact List.prefix_rfl

/-- **Every action is answered alike**, unless the verdicts part. -/
theorem perform_together (action : Action) :
    Together id (app.perform action) (twin.perform action) := by
  cases action with
  | health =>
    have degraded : twin.degraded = app.degraded := by
      obtain ⟨world, script, rfl, -⟩ := twins
      rfl
    rw [perform, perform, degraded]
    refine (look_together twins).map
      (fun seen => Http.Response.json 200 (Wire.health app.degraded seen.isOk)) _
      fun first second same => ?_
    have ok : first.isOk = second.isOk := by
      cases first <;> cases second <;> first | rfl | cases same
    exact congrArg (fun ok => Http.Response.json 200 (Wire.health app.degraded ok)) ok
  | openFeed => exact Or.inl ⟨rfl, twins⟩
  | register credentials =>
    rw [perform, perform, wall_eq twins]
    exact (serveStored_together twins _).respond_same _
  | login credentials =>
    rw [perform, perform, wall_eq twins]
    exact (serveStored_together twins _).respond_same _
  | start credentials =>
    have ready := twins.aside flush_aside
    rw [perform, perform]
    refine Together.respond ?_ fun _ _ same => congrArg _ (toJson_veiled same)
    rw [logInAndStart, logInAndStart, wall_eq ready]
    refine (serveStored_together ready _).andThen (fun record other next twin same twins => ?_)
      fun record next => next.events_startRound _
    obtain rfl : record = other := same
    exact startRound_together twins _
  | look =>
    exact (look_together twins).respond fun _ _ same => congrArg _ (toJson_veiled same)
  | answer value =>
    refine (andLook_together (submit_together twins value)).respond ?_
    rintro ⟨grading, snapshot⟩ ⟨_, other⟩ same
    obtain ⟨rfl, covered⟩ := Prod.mk.inj same
    simp only [Wire.answered, toJson_veiled covered]
  | skip => exact (skip_together twins).respond_same _
  | finish =>
    refine (andLook_together (finish_together twins)).respond ?_
    rintro ⟨ended, snapshot⟩ ⟨_, other⟩ same
    obtain ⟨rfl, covered⟩ := Prod.mk.inj same
    simp only [Wire.finished, toJson_veiled covered]
  | mute muted =>
    obtain ⟨world, script, rfl, worlds, scripts⟩ := twins
    exact Or.inl ⟨rfl, world, script, rfl, worlds, scripts⟩
  | picture =>
    exact (currentPuzzle_together twins).respond fun _ _ => pictureResponse_veiled
  | board limit => exact (serveStored_together twins _).respond_same _
  | standing username => exact (serveStored_together twins _).respond_same _

/-- **Whatever happens is answered alike**, unless the verdicts part. -/
theorem meet_together (occurrence : Occurrence) :
    Together id (app.meet occurrence) (twin.meet occurrence) := by
  cases occurrence with
  | install faults => exact Or.inl ⟨rfl, twins.aside (install_aside faults)⟩
  | remove => exact Or.inl ⟨rfl, twins.aside remove_aside⟩
  | rearrange arrangement => exact Or.inl ⟨rfl, twins.aside (rearrange_aside arrangement)⟩
  | input input =>
    cases input with
    | request request =>
      simp only [meet, serve]
      split
      · exact Or.inl ⟨rfl, twins⟩
      · rename_i action _
        refine (perform_together twins action).map
          (fun response => Answer.response
            (if request.method = .head then response.headOnly else response)) _
          fun first second same => ?_
        rw [show first = second from same]
    | sleep span =>
      obtain ⟨world, script, rfl, worlds, scripts⟩ := id twins
      exact (follow_apace twins (World.sleep_apace scripts worlds span)).imp_left fun after =>
        ⟨rfl, after⟩
    | connect device => exact Or.inl ⟨rfl, twins.aside (openStream_aside device)⟩
    | read device =>
      refine Or.inl ⟨?_, twins.aside (readStream_aside device)⟩
      obtain ⟨world, script, rfl, worlds, -⟩ := twins
      have now : app.world.now = world.now := (congrArg World.now worlds :)
      have same : ({ app with world, script } : App).now = app.now := now.symm
      simp only [id, meet, readStream, same]
      split <;> rfl
    | disconnect device =>
      obtain ⟨world, script, rfl, worlds, scripts⟩ := twins
      exact Or.inl ⟨rfl, world, script, rfl, worlds, scripts⟩

/-- **As long as the verdicts agree, twins look the same for ever.** -/
theorem watch_eq_of_twin (occurrences : List Occurrence)
    (agree : (app.after occurrences).verdicts = (twin.after occurrences).verdicts) :
    app.watch occurrences = twin.watch occurrences := by
  induction occurrences generalizing app twin with
  | nil => rfl
  | cons occurrence later ih =>
    rcases meet_together twins occurrence with ⟨answers, next⟩ | parted
    · have seen : (app.meet occurrence).2.hub.sent = (twin.meet occurrence).2.hub.sent ∧
          (app.meet occurrence).2.storage = (twin.meet occurrence).2.storage := by
        obtain ⟨world, script, same, -⟩ := next
        rw [same]
        exact ⟨rfl, rfl⟩
      have answers : (app.meet occurrence).1 = (twin.meet occurrence).1 := answers
      rw [watch, watch]
      dsimp only
      rw [answers, seen.1, seen.2, ih next agree]
    · -- What has parted stays parted to the end.
      have apart := parted.mono (events_after _ later) (events_after _ later)
      exact absurd apart (Log.not_parted agree)

end Responses

/-- **The solutions never leak.** Two sources answer every call after the same time, with the same
picture or none, but their solutions may differ. Whatever happens from outside, and in whatever
order the players are gone through at each time, if all answers get the same verdicts, then every
response, everything that is read from the live feed, every message sent and everything stored is
the same. -/
theorem watch_eq_of_veiled (start : App) {script other : Script}
    (alike : script.map Attempt.veiled = other.map Attempt.veiled) (occurrences : List Occurrence)
    (agree : (({ start with script } : App).after occurrences).verdicts =
      (({ start with script := other } : App).after occurrences).verdicts) :
    ({ start with script } : App).watch occurrences =
      ({ start with script := other } : App).watch occurrences := by
  have twins : Twin { start with script } { start with script := other } :=
    ⟨start.world, other, rfl, rfl, alike⟩
  exact watch_eq_of_twin twins occurrences agree

/-- A source with one puzzle. -/
def singlePuzzle (solution : Int) : Script :=
  [{ delay := some (Span.ofMillis 5), outcome := some { image := [1, 2], solution } }]

/-- A request that brings JSON. -/
def posted (target body : String) : Occurrence :=
  .input (.request
    { method := .post, target, contentType := some Http.Response.jsonType, body })

/-- Bob and Alice register, Alice starts a round, answers, and looks at the picture once more. The
two have the same score, and come out on the leaderboard in the order in which the store happens to
go through them. -/
def singleAnswer : List Occurrence :=
  let credentials := "\x7b\"username\":\"alice\",\"password\":\"wonderland\"\x7d"
  [posted "/auth/register" "\x7b\"username\":\"bob\",\"password\":\"looking glass\"\x7d",
    posted "/auth/register" credentials, posted "/session" credentials,
    .input (.sleep (Span.ofMillis 10)), posted "/session/answer" "\x7b\"value\":7\x7d",
    .input (.request { method := .get, target := pictureLocation }),
    .rearrange { arrange := List.reverse, perm := List.reverse_perm },
    .input (.request { method := .get, target := "/leaderboard" })]

/-- An answer that is wrong for two puzzles tells nothing of which one it was. -/
theorem watch_eq_of_veiled_wrongAnswer :
    let start := inMemory {} [] { nanos := 0 }
    let three : App := { start with script := singlePuzzle 3 }
    let four : App := { start with script := singlePuzzle 4 }
    (three.after singleAnswer).verdicts = [false] ∧ (four.after singleAnswer).verdicts = [false] ∧
      three.watch singleAnswer = four.watch singleAnswer := by
  have wrong (solution : Int) (either : solution = 3 ∨ solution = 4) :
      (({ inMemory {} [] { nanos := 0 } with script := singlePuzzle solution } : App).after
        singleAnswer).verdicts = [false] := by
    rcases either with rfl | rfl <;> decide +kernel
  refine ⟨wrong 3 (.inl rfl), wrong 4 (.inr rfl), ?_⟩
  exact watch_eq_of_veiled (inMemory {} [] { nanos := 0 }) (by decide) singleAnswer
    ((wrong 3 (.inl rfl)).trans (wrong 4 (.inr rfl)).symm)

end TimedQuiz.App
