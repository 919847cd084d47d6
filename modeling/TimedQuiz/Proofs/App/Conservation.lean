/-
**No graded answer is lost, and none is counted twice.**

An answer passes through the coordinator, the bus, the queue of the recorder and the store, and the
next round of its player begins with what is found there. On a store without faults nothing gets
lost on the way:

* `conservation_of_run`: the stored counters of every player are those of the events, and every
  start carries the counters of the rounds before it.

The invariant has two halves. The world is `Orderly`: the coordinator's books agree with its log,
and every start in it carries the totals of its player. The store is kept in `Books`: nothing is
queued any more, and the store mirrors the log. A start takes its player from the store, so it is by
the second half that the first is kept.
-/

import TimedQuiz.App.Run
import TimedQuiz.Proofs.Account
import TimedQuiz.Proofs.App.Listening
import TimedQuiz.Proofs.Coordinator.Schedule
import TimedQuiz.Proofs.Coordinator.Standing

namespace TimedQuiz

open Store

/-! ### The world -/

namespace Coordinator

/-- The books of the coordinator agree with the log, every start carries the totals of its player,
and all who have started a round are known. -/
structure Orderly (known : String → Prop) (c : Coordinator) (log : List (Span × Event)) : Prop where
  agrees : Agrees c (log.map Prod.snd)
  carries : EachAfter Log.Carries (log.map Prod.snd)
  known : ∀ player, .roundStarted player ∈ log.map Prod.snd → known player.username

namespace Orderly

variable {known more : String → Prop} {c : Coordinator} {log : List (Span × Event)}
  {timings : Timings}

theorem mono (orderly : Orderly known c log) (among : ∀ username, known username → more username) :
    Orderly more c log :=
  ⟨orderly.agrees, orderly.carries, fun player starts => among _ (orderly.known player starts)⟩

theorem balanced (orderly : Orderly known c log) : Log.Balanced (log.map Prod.snd) :=
  ⟨orderly.agrees.fits, orderly.carries⟩

/-- The command starts no round, or one of somebody known, with the totals of the log. -/
def Admits (known : String → Prop) (log : List Event) (command : Command) : Prop :=
  ∀ player, command = .start player →
    known player.username ∧ player = Log.totals player.username log

/-- **A command that is admitted keeps the order.** -/
theorem handle (orderly : Orderly known c log) (now : Span) {command : Command}
    (admitted : Admits known (log.map Prod.snd) command) :
    Orderly known (c.handle timings (.still now) command).2.1
      (logged timings now c log command) := by
  let told := published (c.handle timings (.still now) command).2.2
  have events : (logged timings now c log command).map Prod.snd = log.map Prod.snd ++ told := by
    simp [logged, told, Function.comp_def]
  have agrees : Agrees (c.handle timings (.still now) command).2.1 (log.map Prod.snd ++ told) :=
    handle_preserves Agrees (fun move => move.agrees) command _ orderly.agrees
  have going : ∀ {event : Event}, event.starter? = none → ∀ before, Log.Carries before event := by
    intro event going before
    cases event with
    | roundStarted player => cases going
    | _ => trivial
  rw [← events] at agrees
  rcases handle_opens timings (.still now) c command with
    others | ⟨player, rest, rfl, opening, others⟩
  · refine ⟨agrees, ?_, ?_⟩
    · rw [events]
      exact orderly.carries.append fun event member => going (others event member)
    · rw [events]
      intro player starts
      rcases List.mem_append.mp starts with old | new
      · exact orderly.known player old
      · cases others _ new
  · obtain ⟨isKnown, carried⟩ := admitted player rfl
    have carries : Log.Carries (log.map Prod.snd) (.roundStarted player) := carried
    have split :
        log.map Prod.snd ++ told = (log.map Prod.snd ++ [.roundStarted player]) ++ rest := by
      rw [List.append_assoc]
      exact congrArg _ opening
    rw [split] at events
    refine ⟨agrees, ?_, ?_⟩
    · rw [events]
      exact (orderly.carries.concat carries).append fun event member => going (others event member)
    · rw [events]
      intro other starts
      rcases List.mem_append.mp starts with before | after
      · rcases List.mem_append.mp before with old | new
        · exact orderly.known other old
        · cases List.mem_singleton.mp new
          exact isKnown
      · cases others _ after

theorem lasting (known : String → Prop) : Lasting timings (Orderly known) := by
  intro now c log command unasked orderly
  refine orderly.handle now fun player start => ?_
  rw [start] at unasked
  cases unasked

end Orderly
end Coordinator

namespace App

open Coordinator (Orderly World)

/-! ### The store -/

/-- Nothing is queued, and the store mirrors the log. -/
structure Books (app : App) (log : List Event) : Prop where
  standard : app.bus = standardBus
  healthy : app.storage.installed = some {}
  idle : app.recorder.queue = []
  numbered : Recorder.Numbered app.recorder.nextResult app.storage.memory
  mirrors : Mirrors app.storage.memory log
  /-- Whoever is registered has a record, and nobody else has one. -/
  recorded : ∀ username, (app.storage.memory.loadPlayer username).isSome =
    (app.storage.memory.findUser username).isSome

/-- The user is registered. -/
def Knows (app : App) (username : String) : Prop :=
  (app.storage.memory.findUser username).isSome = true

/-- Telling the next event of a balanced log keeps the books, and leaves the world and the users
alone. -/
theorem Books.tell {app : App} {log : List Event} (books : app.Books log) {entry : Span × Event}
    (balanced : Log.Balanced (log ++ [entry.2]))
    (known : ∀ player, .roundStarted player ∈ log ++ [entry.2] → app.Knows player.username) :
    (app.tell entry).Books (log ++ [entry.2]) ∧ (app.tell entry).world = app.world ∧
      (app.tell entry).Knows = app.Knows := by
  obtain ⟨instant, event⟩ := entry
  obtain ⟨world, bus, recorder, storage⟩ :=
    tell_eq books.standard books.idle books.healthy instant event
  have fresh : app.storage.memory.results.get? app.recorder.nextResult = none := by
    cases found : app.storage.memory.results.get? app.recorder.nextResult with
    | none => rfl
    | some result =>
      have below := books.numbered app.recorder.nextResult (by rw [found]; rfl)
      exact absurd below (Nat.lt_irrefl _)
  refine ⟨⟨bus.trans books.standard, ?_, ?_, ?_, ?_, ?_⟩, world, ?_⟩
  · rw [storage]
    exact books.healthy
  · rw [recorder]
    exact books.idle
  · rw [recorder, storage]
    exact books.numbered.recorded _ event
  · rw [storage]
    exact books.mirrors.recorded balanced fresh
  · rw [storage]
    intro username
    rw [Recorder.findUser_recorded, ← books.recorded]
    refine Recorder.isSome_recorded _ _ _ _ _ fun player carried => ?_
    -- Only someone who has started a round is carried, and such are registered.
    obtain ⟨starter, started, same⟩ :=
      balanced.1.starter_of_account (List.mem_append_right log List.mem_cons_self) carried
    rw [books.recorded, ← same]
    exact known starter started
  · funext username
    rw [Knows, storage, Recorder.findUser_recorded, Knows]

/-- So does telling many, one by one. -/
theorem Books.tellAll {app : App} {log : List Event} (books : app.Books log)
    {entries : List (Span × Event)} (balanced : Log.Balanced (log ++ entries.map Prod.snd))
    (known : ∀ player, .roundStarted player ∈ log ++ entries.map Prod.snd →
      app.Knows player.username) :
    (entries.foldl App.tell app).Books (log ++ entries.map Prod.snd) ∧
      (entries.foldl App.tell app).world = app.world ∧
      (entries.foldl App.tell app).Knows = app.Knows := by
  induction entries generalizing app log with
  | nil =>
    rw [List.map_nil, List.append_nil]
    exact ⟨books, rfl, rfl⟩
  | cons entry rest ih =>
    rw [List.map_cons, List.append_cons] at balanced known
    obtain ⟨next, world, knows⟩ := books.tell balanced.init fun player starts =>
      known player (List.mem_append_left _ starts)
    obtain ⟨last, worldLast, knowsLast⟩ := ih next balanced (knows ▸ known)
    rw [List.map_cons, List.append_cons]
    exact ⟨last, worldLast.trans world, knowsLast.trans knows⟩

/-! ### What actions come down to -/

section Actions

variable (app : App)

theorem serveStored_eq {α : Type} (service : Service α) :
    app.serveStored service =
      ((service.on app.storage).1, { app with storage := (service.on app.storage).2 }) := rfl

theorem look_next : app.look.2 = (app.ask .look).2 := by
  unfold look
  split <;> rename_i asked <;> rw [asked]

theorem startRound_next (player : Player) :
    (app.startRound player).2 = (app.ask (.start player)).2 := by
  unfold startRound
  split <;> rename_i asked <;> rw [asked]

theorem submit_next (value : Int) : (app.submit value).2 = (app.ask (.submit value)).2 := by
  unfold submit
  split <;> rename_i asked <;> rw [asked]

theorem skip_next : app.skip.2 = (app.ask .next).2 := by
  unfold skip
  split <;> rename_i asked <;> rw [asked]

theorem finish_next : app.finish.2 = (app.ask .finish).2 := by
  unfold finish
  split <;> rename_i asked <;> rw [asked]

end Actions

/-! ### The application -/

/-- The world is orderly, and the store is kept in step with it. -/
structure Kept (app : App) : Prop where
  books : app.Books app.events
  world : app.world.Going (Orderly app.Knows)

namespace Kept

variable {app : App}

/-- What is told of an orderly world is written to the store. -/
theorem follow (kept : app.Kept) {world : World} (grown : app.world.log <+: world.log)
    (orderly : world.Going (Orderly app.Knows)) :
    (app.follow world).Kept ∧ (app.follow world).Knows = app.Knows := by
  obtain ⟨rest, split⟩ := grown
  have told : app.events ++ rest.map Prod.snd = world.log.map Prod.snd := by
    rw [events, ← List.map_append, split]
  have begun : ({ app with world } : App).Books app.events :=
    ⟨kept.books.standard, kept.books.healthy, kept.books.idle, kept.books.numbered,
      kept.books.mirrors, kept.books.recorded⟩
  obtain ⟨books, same, knows⟩ := begun.tellAll (told ▸ orderly.kept.balanced) fun player starts =>
    orderly.kept.known player (told ▸ starts)
  have followed : app.follow world = rest.foldl App.tell ({ app with world } : App) := by
    rw [follow_eq, ← split, List.drop_left]
  rw [← followed] at books same knows
  refine ⟨⟨?_, ?_⟩, knows⟩
  · rwa [events, same, ← told]
  · rw [same, knows]
    exact orderly

/-- **Asking the coordinator something that is admitted keeps the store in step.** -/
theorem ask (kept : app.Kept) {command : Coordinator.Command}
    (admitted : Coordinator.Orderly.Admits app.Knows app.events command) :
    (app.ask command).2.Kept :=
  (kept.follow (app.world.log_request app.script command)
    (kept.world.request (Orderly.lasting app.Knows) app.script
      (kept.world.kept.handle app.now admitted))).1

theorem sleep (kept : app.Kept) (span : Span) : (app.sleep span).Kept :=
  (kept.follow (app.world.log_sleep app.script span)
    (kept.world.sleep (Orderly.lasting app.Knows) app.script span)).1

/-- What listeners and streams keep for themselves has no part in this. -/
theorem aside (kept : app.Kept) (sound : Sound) (degraded : Bool) (hub : Feed.Hub Feed.Message)
    (streams : List (String × Feed.Stream)) :
    ({ app with sound, degraded, hub, streams } : App).Kept := by
  obtain ⟨⟨standard, healthy, idle, numbered, mirrors, recorded⟩, world⟩ := kept
  exact ⟨⟨standard, healthy, idle, numbered, mirrors, recorded⟩, world⟩

/-! ### Actions -/

/-- A write that keeps the mirror and the results, and takes no user away. -/
theorem stored (kept : app.Kept) {memory : Memory}
    (results : memory.results = app.storage.memory.results) (mirrors : Mirrors memory app.events)
    (recorded : ∀ username, (memory.loadPlayer username).isSome =
      (memory.findUser username).isSome)
    (known : ∀ username, app.Knows username → (memory.findUser username).isSome = true) :
    ({ app with storage := { app.storage with memory } } : App).Kept where
  books :=
    { standard := kept.books.standard
      healthy := kept.books.healthy
      idle := kept.books.idle
      numbered := by
        rw [Recorder.Numbered, results]
        exact kept.books.numbered
      mirrors
      recorded }
  world := ⟨kept.world.belongs, kept.world.unasked, kept.world.kept.mono known⟩

theorem register (kept : app.Kept) (wall : Timestamp) (credentials : Credentials) :
    (app.serveStored (Account.register wall credentials)).2.Kept := by
  rw [serveStored_eq, Account.register_on kept.books.healthy]
  split
  · exact kept
  · rename_i free
    let user : UserRecord :=
      { username := credentials.username
        passwordHash := Account.digestOf credentials.password
        createdAt := wall }
    change app.storage.memory.findUser user.username = none at free
    have untold : Log.verdicts user.username app.events = [] ∧
        Log.results user.username app.events = [] := by
      -- Whoever has started a round is registered, and this name was free.
      refine kept.world.kept.agrees.fits.untouched fun starter starts same => ?_
      have registered := kept.world.kept.known starter starts
      rw [Knows, same, free] at registered
      cases registered
    refine kept.stored ?_ (kept.books.mirrors.registered free untold) ?_ ?_
    · rw [Memory.registerUser_free _ free]
    · intro username
      rw [Memory.findUser_registerUser _ _ free, Memory.loadPlayer_registerUser _ _ free]
      split
      · rfl
      · exact kept.books.recorded username
    · intro username registered
      rw [Memory.findUser_registerUser _ _ free]
      split
      · rfl
      · exact registered

/-- Noting the time of a login changes nothing that the log tells. -/
theorem login (kept : app.Kept) (username : String) (wall : Timestamp) :
    ({ app with
      storage :=
        { app.storage with
          memory := app.storage.memory.recordLogin username wall } } : App).Kept := by
  refine kept.stored rfl ?_ ?_ ?_
  · exact ⟨kept.books.mirrors.records, kept.books.mirrors.resultCount⟩
  · intro other
    rw [Memory.isSome_recordLogin]
    exact kept.books.recorded other
  · intro other registered
    rwa [Memory.isSome_recordLogin]

theorem authenticate (kept : app.Kept) (wall : Timestamp) (credentials : Credentials) :
    (app.serveStored (Account.authenticate wall credentials)).2.Kept := by
  rw [serveStored_eq, Account.authenticate_on kept.books.healthy]
  split
  · exact kept.login credentials.username wall
  · exact kept

/-- Waiting for the queue of the recorder, which is empty, changes nothing of this. -/
theorem flush (kept : app.Kept) : app.flush.Kept := by
  obtain ⟨books, world⟩ := kept
  obtain ⟨standard, healthy, idle, numbered, mirrors, recorded⟩ := books
  have same : app.flush =
      { app with
        recorder := { app.recorder with released := app.recorder.released ++ [0] } } := by
    simp only [App.flush, Recorder.flush, idle, drain, Recorder.drain]
    rfl
  rw [same]
  exact ⟨⟨standard, healthy, idle, numbered, mirrors, recorded⟩, world⟩

/-- **A round starts with the totals of the log**, for these are stored for whoever logs in. -/
theorem logInAndStart (kept : app.Kept) (credentials : Credentials) :
    (app.logInAndStart credentials).2.Kept := by
  have ready := kept.flush
  rw [App.logInAndStart, serveStored_eq, Account.authenticate_on ready.books.healthy]
  split
  · rename_i matched
    have loggedIn := ready.login credentials.username app.flush.wall
    refine startRound_next _ _ ▸ loggedIn.ask fun player start => ?_
    -- The flush has left nothing queued, so what is stored is what the log tells.
    have stored := (ready.books.mirrors.records credentials.username).stats
    obtain rfl := Coordinator.Command.start.inj start
    rw [stored]
    refine ⟨?_, rfl⟩
    rw [Knows, Memory.isSome_recordLogin]
    exact Account.isSome_of_matchesUser matched
  · exact ready

theorem andThen {α β : Type} {first : Except Trouble α × App}
    {second : α → App → Except Trouble β × App} (kept : first.2.Kept)
    (later : ∀ value (next : App), next.Kept → (second value next).2.Kept) :
    (App.andThen first second).2.Kept := by
  obtain ⟨_ | value, next⟩ := first
  · exact kept
  · exact later value next kept

theorem respond {α : Type} {result : Except Trouble α × App} (kept : result.2.Kept)
    (write : α → Http.Response) : (App.respond result write).2.Kept := by
  obtain ⟨_ | value, next⟩ := result <;> exact kept

theorem look (kept : app.Kept) : app.look.2.Kept := by
  rw [look_next]
  exact kept.ask fun player start => by cases start

theorem perform (kept : app.Kept) (action : Action) : (app.perform action).2.Kept := by
  cases action with
  | health => exact kept.look
  | openFeed => exact kept
  | register credentials => exact (kept.register app.wall credentials).respond _
  | login credentials => exact (kept.authenticate app.wall credentials).respond _
  | start credentials => exact (kept.logInAndStart credentials).respond _
  | look => exact kept.look.respond _
  | answer value =>
    refine respond (andThen ?_ fun grading next kept => ?_) _
    · rw [submit_next]
      exact kept.ask fun player start => by cases start
    · exact andThen kept.look fun snapshot last kept => kept
  | skip =>
    refine respond ?_ _
    rw [skip_next]
    exact kept.ask fun player start => by cases start
  | finish =>
    refine respond (andThen ?_ fun ended next kept => ?_) _
    · rw [finish_next]
      exact kept.ask fun player start => by cases start
    · exact andThen kept.look fun snapshot last kept => kept
  | mute muted => exact kept.aside _ _ _ _
  | picture =>
    refine respond (andThen kept.look fun snapshot next kept => ?_) _
    split <;> exact kept
  | board limit =>
    refine respond ?_ _
    rw [serveStored_eq, Leaderboard.top_reads]
    exact kept
  | standing username =>
    refine respond ?_ _
    rw [serveStored_eq, Leaderboard.standing_reads]
    exact kept

theorem receive (kept : app.Kept) (input : Input) : (app.receive input).Kept := by
  cases input with
  | request request =>
    simp only [App.receive, serve]
    split
    · exact kept
    · exact kept.perform _
  | sleep span => exact kept.sleep span
  | connect device => exact kept.aside _ _ _ _
  | read device =>
    simp only [App.receive, readStream]
    split
    · exact kept
    · exact kept.aside _ _ _ _
  | disconnect device => exact kept.aside _ _ _ _

end Kept

/-- In the beginning the store is empty, as is the log. -/
theorem kept_inMemory (settings : Settings) (script : Coordinator.Script) (epoch : Timestamp) :
    (inMemory settings script epoch).Kept := by
  refine ⟨⟨rfl, rfl, rfl, ?_, .initial, ?_⟩, .initial, ?_, Coordinator.agrees_initial, .nil, ?_⟩
  · intro id used
    cases used
  · exact fun username => rfl
  · intro command waits
    cases waits
  · intro player starts
    cases starts

theorem kept_of_run (settings : Settings) (script : Coordinator.Script) (epoch : Timestamp)
    (inputs : List Input) : ((inMemory settings script epoch).run inputs).Kept :=
  List.foldlRecOn _ _ (kept_inMemory settings script epoch) fun _ kept input _ =>
    kept.receive input

/-- **No answer is lost.** Whatever is requested and however time goes by, the store holds of every
player what was announced: all answers and all correct ones, all rounds that are over with as many
results, and the best score among these. Whoever starts a round has a record, and the round starts
with the counters of all rounds before it. -/
theorem conservation_of_run (settings : Settings) (script : Coordinator.Script) (epoch : Timestamp)
    (inputs : List Input) :
    let app := (inMemory settings script epoch).run inputs
    let store := app.storage.memory
    (∀ username,
      let verdicts := Log.verdicts username app.events
      let results := Log.results username app.events
      let record := store.recordOrInitial username
      record.stats.totalAttempts = verdicts.length ∧
        record.stats.totalScore = verdicts.count true ∧
        record.stats.correctAnswers = verdicts.count true ∧
        record.gamesPlayed = results.length ∧
        store.resultCount username = results.length ∧
        record.bestScore = results.foldl max 0) ∧
      ∀ before player after, app.events = before ++ .roundStarted player :: after →
        (store.loadPlayer player.username).isSome = true ∧
          player = Log.totals player.username before := by
  intro app store
  obtain ⟨books, going⟩ := kept_of_run settings script epoch inputs
  refine ⟨fun username => ?_, fun before player after split => ⟨?_, ?_⟩⟩
  · intro verdicts results record
    have tells : Tells app.events username record := books.mirrors.records username
    rw [tells.stats]
    exact ⟨rfl, rfl, rfl, tells.gamesPlayed, books.mirrors.resultCount username, tells.bestScore⟩
  · have started : .roundStarted player ∈ app.events := by
      rw [split]
      exact List.mem_append_right before List.mem_cons_self
    exact (books.recorded _).trans (going.kept.known player started)
  · exact going.kept.carries before (.roundStarted player) after split

end App
end TimedQuiz
