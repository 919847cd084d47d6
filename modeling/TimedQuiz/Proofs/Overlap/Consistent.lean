/-
**What holds of many clients at the same time.**

* `Consistent`: what holds of the crowd after any steps. Everything announced is written or still
  owed, in order; whoever is released from waiting finds all that was announced before he arrived;
  and every start that is announced is one for which counters have been read.
* `Consistent.take`, `Consistent.call` and the others: every step keeps it.
* `consistent_of_run`: so it holds after any steps.
-/

import TimedQuiz.Proofs.Account
import TimedQuiz.Proofs.Coordinator.Standing
import TimedQuiz.Proofs.Overlap.Crowd

namespace TimedQuiz.Crowd

open Coordinator (Agrees Command Reply Request World published)
open Recorder (Call Job)

/-! ### What is owed to the store -/

/-- The counters that some jobs bring. -/
def counters (jobs : List Job) : List Player := (jobs.flatMap Job.calls).filterMap Call.stats?

/-- The counters that are announced and not yet written. -/
def owed (crowd : Crowd) : List Player :=
  crowd.hand.filterMap Call.stats? ++ counters crowd.recorder.queue

/-- The user is registered. -/
def Knows (crowd : Crowd) (username : String) : Prop :=
  (crowd.memory.findUser username).isSome = true

/-- The counters are the latest of those events that had been written when they were read, and
everything that had been announced when the client arrived was among these. -/
structure Found (log : List Event) (reading : Reading) : Prop where
  flushed : reading.arrived ≤ reading.read
  within : reading.read ≤ (Log.records log).length
  latest : reading.player =
    Log.latest reading.player.username ((Log.records log).take reading.read)

/-- Once the client with a number is released, everything is written that was announced before he
arrived; until then his place in the queue makes sure of it. -/
def Awaits (crowd : Crowd) (number arrived : Nat) : Prop :=
  (number ∈ crowd.recorder.released → arrived ≤ crowd.written) ∧
    ∀ before after, crowd.recorder.queue = before ++ .flush number :: after →
      arrived ≤
        crowd.written + (crowd.hand.filterMap Call.stats?).length + (counters before).length

/-- The player whose round a command starts. -/
def starter? : Command → Option Player
  | .start player => some player
  | _ => none

/-- An announced start is one of those that were accepted. -/
def Opens (openings : List Opening) (before : List Event) : Event → Prop
  | .roundStarted player =>
    ∃ opening ∈ openings, opening.before = before ∧ opening.reading.player = player
  | _ => True

theorem Opens.mono {few many : List Opening} {before : List Event} {event : Event}
    (opens : Opens few before event) (among : ∀ opening ∈ few, opening ∈ many) :
    Opens many before event := by
  cases event with
  | roundStarted player => exact opens.imp fun opening => And.imp_left (among opening)
  | _ => trivial

theorem opens_of_going {event : Event} (going : event.starter? = none) (openings : List Opening)
    (before : List Event) : Opens openings before event := by
  cases event with
  | roundStarted player => cases going
  | _ => trivial

/-- What holds of the crowd after any steps. -/
structure Consistent (crowd : Crowd) : Prop where
  agrees : Agrees crowd.world.coordinator crowd.events
  belongs : crowd.world.BelongsTo fun _ => True
  /-- The starts that wait for the coordinator are those that clients have asked for. -/
  starts : crowd.world.mailbox.filterMap starter? = crowd.asked.map Reading.player
  within : crowd.written ≤ (Log.records crowd.events).length
  /-- What is announced is written in order. -/
  owes : ((Log.records crowd.events).drop crowd.written).filterMap Event.counters? = crowd.owed
  /-- The store has the counters that were written last. -/
  stored : ∀ username, (crowd.memory.recordOrInitial username).stats =
    Log.latest username ((Log.records crowd.events).take crowd.written)
  /-- Only those wait who have arrived. -/
  queued : ∀ number, .flush number ∈ crowd.recorder.queue → number < crowd.visits.length
  released : ∀ number ∈ crowd.recorder.released, number < crowd.visits.length
  waiting : ∀ number visit, crowd.visits[number]? = some visit → visit.stage = .waiting →
    Awaits crowd number visit.arrived
  ready : ∀ visit ∈ crowd.visits, ∀ player read, visit.stage = .ready player read →
    Found crowd.events { player, arrived := visit.arrived, read } ∧ crowd.Knows player.username
  asked : ∀ reading ∈ crowd.asked,
    Found crowd.events reading ∧ crowd.Knows reading.player.username
  /-- Whoever has started is registered. -/
  known : ∀ player, .roundStarted player ∈ crowd.events → crowd.Knows player.username
  found : ∀ opening ∈ crowd.openings, Found opening.before opening.reading ∧
    ∃ after, crowd.events = opening.before ++ .roundStarted opening.reading.player :: after
  opened : EachAfter (Opens crowd.openings) crowd.events

/-! ### What stays as it is -/

theorem Found.mono {log more : List Event} {reading : Reading} (found : Found log reading)
    (grown : log <+: more) : Found more reading := by
  obtain ⟨rest, rfl⟩ := grown
  obtain ⟨within, written, -⟩ := Log.records_grown found.within rest
  exact ⟨found.flushed, within, written ▸ found.latest⟩

theorem counters_append (first second : List Job) :
    counters (first ++ second) = counters first ++ counters second := by
  rw [counters, List.flatMap_append, List.filterMap_append, counters, counters]

theorem counters_cons (job : Job) (later : List Job) :
    counters (job :: later) = job.calls.filterMap Call.stats? ++ counters later := by
  rw [counters, List.flatMap_cons, List.filterMap_append, counters]

theorem length_stats_cons (call : Call) (hand : List Call) :
    ((call :: hand).filterMap Call.stats?).length =
      call.stats?.toList.length + (hand.filterMap Call.stats?).length := by
  cases brought : call.stats? <;> simp [brought, Nat.add_comm]

/-- What stands in front of something is the same when other things are added behind. -/
theorem append_of_append {α : Type} {entries more before after : List α} {entry : α}
    (split : entries ++ more = before ++ entry :: after) (other : entry ∉ more) :
    ∃ rest, entries = before ++ entry :: rest := by
  rcases List.append_eq_append_iff.mp split with ⟨between, rfl, rest⟩ | ⟨between, rfl, rest⟩
  · exact absurd (rest ▸ List.mem_append_right between List.mem_cons_self) other
  · cases between with
    | nil => exact absurd (rest.subst List.mem_cons_self : entry ∈ [] ++ more) other
    | cons first others =>
      obtain ⟨rfl, -⟩ := List.cons.inj rest
      exact ⟨others, rfl⟩

/-- The job of an event brings its counters, and nobody waits by it. -/
theorem hear_eq (recorder : Recorder) (wall : Timestamp) (event : Event) :
    (recorder.hear wall event).released = recorder.released ∧
      ∃ more, (recorder.hear wall event).queue = recorder.queue ++ more ∧
        counters more = event.counters?.toList ∧ ∀ number, Job.flush number ∉ more := by
  cases event with
  | answerGraded value correct player => exact ⟨rfl, [_], rfl, rfl, by simp⟩
  | roundEnded player summary => exact ⟨rfl, [_], rfl, rfl, by simp⟩
  | _ => exact ⟨rfl, [], (List.append_nil _).symm, rfl, by simp⟩

theorem hearAll_eq (crowd : Crowd) (told : List (Span × Event)) :
    (crowd.hearAll told).released = crowd.recorder.released ∧
      ∃ more, (crowd.hearAll told).queue = crowd.recorder.queue ++ more ∧
        counters more = (told.map Prod.snd).filterMap Event.counters? ∧
        ∀ number, Job.flush number ∉ more := by
  induction told using List.reverseRecOn with
  | nil => exact ⟨rfl, [], (List.append_nil _).symm, rfl, fun _ => List.not_mem_nil⟩
  | append_singleton told entry ih =>
    obtain ⟨released, more, queue, brought, unwaited⟩ := ih
    obtain ⟨same, job, longer, brings, unwaitedNow⟩ :=
      hear_eq (crowd.hearAll told) (crowd.epoch.after entry.1) entry.2
    rw [hearAll, List.foldl_append]
    refine ⟨same.trans released, more ++ job, ?_, ?_, fun number member => ?_⟩
    · exact longer.trans ((congrArg (· ++ job) queue).trans (List.append_assoc ..))
    · rw [counters_append, brought, brings, List.map_append, List.filterMap_append]
      cases counts : entry.2.counters? <;> simp [counts]
    · exact (List.mem_append.mp member).elim (unwaited number) (unwaitedNow number)

/-- Whoever waits goes on waiting at the same place when others queue up behind. -/
theorem Awaits.longer {crowd other : Crowd} {number arrived : Nat} {more : List Job}
    (awaits : crowd.Awaits number arrived)
    (released : other.recorder.released = crowd.recorder.released)
    (queue : other.recorder.queue = crowd.recorder.queue ++ more)
    (hand : other.hand = crowd.hand) (written : other.written = crowd.written)
    (unwaited : .flush number ∉ more) : other.Awaits number arrived := by
  obtain ⟨leaves, stands⟩ := awaits
  rw [Awaits, released, queue, hand, written]
  refine ⟨leaves, fun before after split => ?_⟩
  obtain ⟨rest, standing⟩ := append_of_append split unwaited
  exact stands before rest standing

/-! ### What the world does -/

theorem starters_post (world : World) {command : Command} (other : starter? command = none) :
    (world.post command).mailbox.filterMap starter? = world.mailbox.filterMap starter? := by
  rw [World.post, List.filterMap_append, List.filterMap_cons_none other, List.filterMap_nil,
    List.append_nil]

/-- Work that comes due starts no round. -/
theorem starters_fire (timings : Timings) (world : World) {task : Coordinator.Task}
    (own : task.job.BelongsTo fun _ => True) (outcome : Option Puzzle) :
    (world.fire timings task outcome).mailbox.filterMap starter? =
      world.mailbox.filterMap starter? := by
  obtain ⟨ticket, since, job⟩ := task
  cases job with
  | fetch of call => exact starters_post _ rfl
  | countDown of clock due =>
    have told := starters_post world
      (rfl : starter? (.tick of (clock.remaining world.now)) = none)
    simp only [World.fire]
    split
    · exact (starters_post _ rfl).trans told
    · exact told
  | reminder due command =>
    cases command with
    | retryDue of => exact starters_post _ rfl
    | followUpDue of sequence => exact starters_post _ rfl
    | _ => exact own.elim

/-- What was announced with a command, and the recorder has yet to hear. -/
theorem told_handle (timings : Timings) (world : World) (command : Command) :
    ((world.handle timings command).2.log.drop world.log.length).map Prod.snd =
      published (world.coordinator.handle timings (.still world.now) command).2.2 := by
  rw [List.map_drop, World.events_handle, List.drop_left' (List.length_map ..)]

/-- A world that goes on from the crowd's: it has announced something on the way, and some commands
are left to be handled. -/
structure Announced (crowd : Crowd) (world : World) (rest : List Command) (told : List Event) :
    Prop where
  events : world.log.map Prod.snd = crowd.events ++ told
  heard : (world.log.drop crowd.world.log.length).map Prod.snd = told
  agrees : Agrees world.coordinator (crowd.events ++ told)
  belongs : world.BelongsTo fun _ => True
  mailbox : world.mailbox = rest

/-- A start that is accepted is announced first; one that is refused announces nothing. -/
theorem accepts_start (timings : Timings) (watch : Watch) (c : Coordinator)
    (player : Player) :
    let outcome := c.handle timings watch (.start player)
    (accepts outcome.1 = false ∧ published outcome.2.2 = []) ∨
      accepts outcome.1 = true ∧
        ∃ rest, published outcome.2.2 = .roundStarted player :: rest ∧
          ∀ event ∈ rest, event.starter? = none := by
  simp only [Coordinator.handle, Coordinator.start]
  split
  · exact Or.inl ⟨rfl, rfl⟩
  · simp only [Coordinator.published_append, Coordinator.published_cancelTimers, List.nil_append]
    refine Or.inr ⟨rfl, _, rfl, fun event told => Event.starter?_eq_none ?_⟩
    rw [Coordinator.requestNext_kind told]
    exact Event.Kind.noConfusion

/-! ### Steps -/

namespace Consistent

variable {crowd : Crowd}

/-- What is written and what is owed make up the records. -/
theorem length_records (consistent : Consistent crowd) :
    (Log.records crowd.events).length = crowd.written + crowd.owed.length := by
  have dropped := Log.length_counters_drop crowd.events crowd.written
  rw [consistent.owes] at dropped
  have within := consistent.within
  omega

/-! ### The recorder's worker -/

/-- The worker takes a job: its counters pass from the queue into the hand. -/
theorem take (consistent : Consistent crowd) : Consistent (crowd.step .take) := by
  rw [Crowd.step]
  split
  · rename_i job recorder idle takes
    obtain ⟨queue, -, released⟩ := Recorder.take?_eq_some takes
    have flushed (number : Nat) (own : number ∈ job.waiter?.toList) : job = .flush number := by
      cases job with
      | flush waiter => exact congrArg Job.flush (List.mem_singleton.mp own).symm
      | _ => cases own
    exact
      { consistent with
        owes := by
          have owes := consistent.owes
          rwa [owed, idle, queue, counters_cons] at owes
        queued := fun number member =>
          consistent.queued number (queue ▸ List.mem_cons_of_mem job member)
        released := fun number member => by
          rw [released] at member
          rcases List.mem_append.mp member with old | new
          · exact consistent.released number old
          · exact consistent.queued number (queue ▸ flushed number new ▸ List.mem_cons_self)
        waiting := fun number visit here waits => by
          obtain ⟨leaves, stands⟩ := consistent.waiting number visit here waits
          refine ⟨fun member => ?_, fun before after split => ?_⟩
          · rw [released] at member
            rcases List.mem_append.mp member with old | new
            · exact leaves old
            · -- Nothing stands before the job that is taken.
              have first := stands [] recorder.queue (flushed number new ▸ queue)
              rwa [idle] at first
          · have behind := stands (job :: before) after (by rw [queue, split]; rfl)
            rwa [idle, counters_cons, List.length_append, List.filterMap_nil, List.length_nil,
              Nat.add_zero, ← Nat.add_assoc] at behind }
  · exact consistent

/-- What a call brings is the first thing that was owed. -/
theorem brings (consistent : Consistent crowd) {call : Call} {hand : List Call}
    (held : crowd.hand = call :: hand) :
    let written := crowd.written + call.stats?.toList.length
    written ≤ (Log.records crowd.events).length ∧
      ((Log.records crowd.events).drop written).filterMap Event.counters? =
        hand.filterMap Call.stats? ++ counters crowd.recorder.queue ∧
      ∀ username, Log.latest username ((Log.records crowd.events).take written) =
        (call.statsOf? username).getD
          (Log.latest username ((Log.records crowd.events).take crowd.written)) := by
  have owes := consistent.owes
  rw [owed, held] at owes
  cases brought : call.stats? with
  | none =>
    rw [List.filterMap_cons_none brought] at owes
    simp only [Call.statsOf?, brought]
    exact ⟨consistent.within, owes, fun _ => rfl⟩
  | some player =>
    rw [List.filterMap_cons_some brought] at owes
    simp only [Call.statsOf?, brought]
    obtain ⟨within, left, latest⟩ := Log.latest_take_succ owes
    refine ⟨within, left, fun username => (latest username).trans ?_⟩
    by_cases own : player.username = username <;> simp [own, Option.filter]

/-- The worker makes a call. -/
theorem call (consistent : Consistent crowd) (wall : Timestamp) :
    Consistent (crowd.step (.call wall)) := by
  rw [Crowd.step]
  split
  · exact consistent
  · rename_i call hand held
    obtain ⟨within, owes, latest⟩ := consistent.brings held
    have applied : call.on {} wall crowd.memory = call.apply wall crowd.memory := by
      rw [Call.on_eq, if_neg List.not_mem_nil]
    have users (username : String) :
        (call.apply wall crowd.memory).findUser username = crowd.memory.findUser username := by
      cases call <;> rfl
    have knows {username : String} (known : crowd.Knows username) :
        ((call.on {} wall crowd.memory).findUser username).isSome = true := by
      rw [applied, users]
      exact known
    exact
      { consistent with
        within
        owes
        stored := fun username => by
          rw [applied, (Recorder.recordOrInitial_apply crowd.memory username wall call).1,
            consistent.stored]
          exact (latest username).symm
        waiting := fun number visit here waits => by
          obtain ⟨leaves, stands⟩ := consistent.waiting number visit here waits
          refine ⟨fun member => ?_, fun before after split => ?_⟩
          · exact Nat.le_add_right_of_le (leaves member)
          · have behind := stands before after split
            rw [held, length_stats_cons] at behind
            dsimp only
            omega
        ready := fun visit member player read stage =>
          (consistent.ready visit member player read stage).imp_right knows
        asked := fun reading member => (consistent.asked reading member).imp_right knows
        known := fun player starts => knows (consistent.known player starts) }

/-! ### The store -/

/-- Nothing has been told of who is not registered. -/
theorem latest_unknown (consistent : Consistent crowd) {username : String}
    (unknown : ¬crowd.Knows username) (count : Nat) :
    Log.latest username ((Log.records crowd.events).take count) = Player.fresh username :=
  consistent.agrees.fits.latest_of_absent
    (fun starter started same => unknown (same.subst (consistent.known starter started))) count

/-- The store may change in whatever has no part in this. -/
theorem remember (consistent : Consistent crowd) (memory : Store.Memory)
    (stored : ∀ username, (memory.recordOrInitial username).stats =
      Log.latest username ((Log.records crowd.events).take crowd.written))
    (knows : ∀ username, crowd.Knows username → (memory.findUser username).isSome = true) :
    Consistent { crowd with memory } :=
  { consistent with
    stored
    ready := fun visit member player read stage =>
      (consistent.ready visit member player read stage).imp_right (knows _)
    asked := fun reading member => (consistent.asked reading member).imp_right (knows _)
    known := fun player starts => knows _ (consistent.known player starts) }

theorem register (consistent : Consistent crowd) (wall : Timestamp) (credentials : Credentials) :
    Consistent (crowd.step (.register wall credentials)) := by
  rw [Crowd.step, Account.register_on rfl]
  cases taken : crowd.storage.memory.findUser credentials.username with
  | some user => exact consistent
  | none =>
    refine consistent.remember _ (fun username => ?_) fun username known => ?_
    · rw [Store.Memory.recordOrInitial_registerUser _ _ taken]
      split
      · rename_i same
        have unknown : ¬crowd.Knows username := by
          rw [Knows, same, show crowd.memory.findUser _ = none from taken]
          exact Bool.noConfusion
        exact (consistent.latest_unknown unknown _).symm
      · exact consistent.stored username
    · rw [Store.Memory.findUser_registerUser _ _ taken]
      split
      · rfl
      · exact known

/-! ### Clients -/

/-- A client begins to wait. -/
theorem arrive (consistent : Consistent crowd) (credentials : Credentials) :
    Consistent (crowd.step (.arrive credentials)) := by
  have absent : .flush crowd.visits.length ∉ crowd.recorder.queue := fun member =>
    Nat.lt_irrefl _ (consistent.queued _ member)
  have longer {number : Nat} (before : number < crowd.visits.length) (visit : Visit) :
      number < (crowd.visits ++ [visit]).length := by
    rw [List.length_append]
    exact Nat.lt_add_right _ before
  exact
    { consistent with
      owes := by
        rw [owed, Crowd.step, Recorder.flush, counters_append]
        exact consistent.owes.trans (congrArg _ (List.append_nil _).symm)
      queued := fun number member => by
        rcases List.mem_append.mp member with old | new
        · exact longer (consistent.queued number old) _
        · cases List.mem_singleton.mp new
          rw [Crowd.step, List.length_append]
          exact Nat.lt_succ_self _
      released := fun number member => longer (consistent.released number member) _
      waiting := fun number visit here waits => by
        rw [Crowd.step] at here
        by_cases earlier : number < crowd.visits.length
        · rw [List.getElem?_append_left earlier] at here
          refine (consistent.waiting number visit here waits).longer rfl rfl rfl rfl fun same => ?_
          exact Nat.ne_of_lt earlier (Job.flush.inj (List.mem_singleton.mp same))
        · obtain ⟨place, -⟩ := List.getElem?_eq_some_iff.mp here
          rw [List.length_append, List.length_singleton] at place
          obtain rfl : number = crowd.visits.length := by omega
          rw [List.getElem?_concat_length] at here
          obtain rfl := Option.some.inj here
          refine ⟨fun member => absurd (consistent.released _ member) (Nat.lt_irrefl _), ?_⟩
          intro before after split
          -- The client stands behind everything that is queued.
          obtain ⟨rfl, -, -⟩ :=
            (List.append_cons_inj_of_notMem absent List.not_mem_nil).mp split
          have total := consistent.length_records
          rw [owed, List.length_append, ← Nat.add_assoc] at total
          exact Nat.le_of_eq total
      ready := fun visit member player read stage => by
        rcases List.mem_append.mp member with old | new
        · exact consistent.ready visit old player read stage
        · cases List.mem_singleton.mp new
          cases stage }

/-- A client who waits no longer gets further. -/
theorem advance (consistent : Consistent crowd) (number : Nat) (visit : Visit)
    (further : visit.stage ≠ .waiting)
    (ready : ∀ player read, visit.stage = .ready player read →
      Found crowd.events { player, arrived := visit.arrived, read } ∧
        crowd.Knows player.username) :
    Consistent { crowd with visits := crowd.visits.set number visit } :=
  { consistent with
    queued := fun other member => by
      rw [List.length_set]
      exact consistent.queued other member
    released := fun other member => by
      rw [List.length_set]
      exact consistent.released other member
    waiting := fun other found here waits => by
      rw [List.getElem?_set] at here
      split at here
      · split at here
        · exact absurd (Option.some.inj here ▸ waits) further
        · cases here
      · exact consistent.waiting other found here waits
    ready := fun found member player read stage => by
      rcases List.mem_or_eq_of_mem_set member with old | rfl
      · exact consistent.ready found old player read stage
      · exact ready player read stage }

/-- A client logs in, and finds all that was announced before he arrived. -/
theorem login (consistent : Consistent crowd) (number : Nat) (wall : Timestamp) :
    Consistent (crowd.step (.login number wall)) := by
  rw [Crowd.step]
  split
  · rename_i visit here
    split
    · rename_i released
      have arrived : visit.arrived ≤ crowd.written :=
        (consistent.waiting number visit here released.1).1 released.2
      rw [enter, Account.authenticate_on rfl]
      by_cases matching : Account.matchesUser visit.credentials
        (crowd.storage.memory.findUser visit.credentials.username) = true
      · let username := visit.credentials.username
        let stats := (crowd.memory.recordOrInitial username).stats
        have latest : stats = Log.latest username _ := consistent.stored username
        have own : stats.username = username := latest ▸ Log.latest_username ..
        have found : Found crowd.events
            { player := stats, arrived := visit.arrived, read := crowd.written } :=
          ⟨arrived, consistent.within, by rw [own]; exact latest⟩
        have known : crowd.Knows stats.username := by
          rw [own]
          exact Account.isSome_of_matchesUser matching
        have logged := consistent.remember (crowd.memory.recordLogin username wall)
          consistent.stored fun other known => by rwa [Store.Memory.isSome_recordLogin]
        rw [if_pos matching]
        refine logged.advance number { visit with stage := .ready stats crowd.written }
          Stage.noConfusion fun player read stage => ?_
        obtain ⟨rfl, rfl⟩ := Stage.ready.inj stage
        refine ⟨found, ?_⟩
        rw [Knows, Store.Memory.isSome_recordLogin]
        exact known
      · rw [if_neg matching]
        exact consistent.advance number { visit with stage := .gone } Stage.noConfusion
          fun _ _ stage => Stage.noConfusion stage
    · exact consistent
  · exact consistent

/-- A client who has been given counters asks the coordinator to start. -/
theorem send (consistent : Consistent crowd) (number : Nat) :
    Consistent (crowd.step (.send number)) := by
  rw [Crowd.step]
  split
  · rename_i credentials arrived player read here
    have moved := consistent.advance number { credentials, arrived, stage := .gone }
      Stage.noConfusion fun _ _ stage => Stage.noConfusion stage
    exact
      { moved with
        belongs := consistent.belongs.post _ fun of same => by cases same
        starts := by
          rw [World.post, List.filterMap_append, consistent.starts, List.map_append]
          rfl
        asked := fun reading member => by
          rcases List.mem_append.mp member with old | new
          · exact consistent.asked reading old
          · cases List.mem_singleton.mp new
            exact consistent.ready _ (List.mem_of_getElem? here) player read rfl }
  · exact consistent

/-! ### The world without the coordinator -/

/-- What is neither announced nor handled has no part in this. -/
theorem aside (consistent : Consistent crowd) {world : World} (log : world.log = crowd.world.log)
    (coordinator : world.coordinator = crowd.world.coordinator)
    (belongs : world.BelongsTo fun _ => True)
    (starts : world.mailbox.filterMap starter? = crowd.world.mailbox.filterMap starter?) :
    Consistent { crowd with world } := by
  obtain ⟨now, coordinator', tasks, mailbox, log', calls⟩ := world
  obtain rfl : log' = crowd.world.log := log
  obtain rfl : coordinator' = crowd.world.coordinator := coordinator
  exact { consistent with belongs, starts := starts.trans consistent.starts }

theorem ask (consistent : Consistent crowd) (request : Request) :
    Consistent (crowd.step (.ask request)) := by
  have posted {command : Command} (own : command.BelongsTo fun _ => True)
      (other : starter? command = none) :
      Consistent { crowd with world := crowd.world.post command } :=
    consistent.aside rfl rfl (consistent.belongs.post command own) (starters_post _ other)
  cases request with
  | start player => exact consistent
  | submit value => exact posted (Request.belongsTo (.submit value) _) rfl
  | next => exact posted (Request.belongsTo .next _) rfl
  | finish => exact posted (Request.belongsTo .finish _) rfl
  | look => exact posted (Request.belongsTo .look _) rfl

theorem fire (consistent : Consistent crowd) (ticket : Nat) (outcome : Option Puzzle) :
    Consistent (crowd.step (.fire ticket outcome)) := by
  rw [Crowd.step, World.step]
  split
  · rename_i task found
    have own := consistent.belongs.tasks task (List.mem_of_find?_eq_some found)
    exact consistent.aside (World.log_fire ..) (World.fire_frame ..).1
      (consistent.belongs.fire _ own outcome) (starters_fire _ _ own outcome)
  · exact consistent

theorem wait (consistent : Consistent crowd) (span : Span) :
    Consistent (crowd.step (.wait span)) :=
  consistent.aside rfl rfl ⟨consistent.belongs.tasks, consistent.belongs.mailbox⟩ rfl

/-! ### The coordinator -/

/-- The coordinator handles the first command. -/
theorem announced (consistent : Consistent crowd) {command : Command} {rest : List Command}
    (waits : crowd.world.mailbox = command :: rest) {told : List Event}
    (announces : published (crowd.world.coordinator.handle crowd.timings
      (.still crowd.world.now) command).2.2 = told) :
    Announced crowd (({ crowd.world with mailbox := rest } : World).handle crowd.timings command).2
      rest told := by
  let before : World := { crowd.world with mailbox := rest }
  obtain ⟨mailbox, coordinator⟩ := before.handle_frame crowd.timings command
  have fewer : before.BelongsTo fun _ => True :=
    ⟨consistent.belongs.tasks, fun other member =>
      consistent.belongs.mailbox other (waits ▸ List.mem_cons_of_mem command member)⟩
  refine ⟨?_, ?_, ?_, fewer.handle command, mailbox⟩
  · exact (before.events_handle command).trans (congrArg _ announces)
  · exact (told_handle crowd.timings before command).trans announces
  · rw [coordinator, ← announces]
    exact Coordinator.handle_preserves Agrees (fun move => move.agrees) command _
      consistent.agrees

/-- The recorder hears what was announced, and of the starts some wait no longer. -/
theorem handled (consistent : Consistent crowd) {world : World} {rest : List Command}
    {told : List Event} (announced : Announced crowd world rest told) (asked : List Reading)
    (openings : List Opening) (starts : rest.filterMap starter? = asked.map Reading.player)
    (fewer : ∀ reading ∈ asked, reading ∈ crowd.asked)
    (known : ∀ player, .roundStarted player ∈ told → crowd.Knows player.username)
    (found : ∀ opening ∈ openings, Found opening.before opening.reading ∧
      ∃ after, crowd.events ++ told =
        opening.before ++ .roundStarted opening.reading.player :: after)
    (opened : EachAfter (Opens openings) (crowd.events ++ told)) :
    Consistent
      { crowd with
        world
        recorder := crowd.hearAll (world.log.drop crowd.world.log.length)
        asked
        openings } := by
  have events := announced.events
  have grown : crowd.events <+: crowd.events ++ told := List.prefix_append _ _
  obtain ⟨released, more, queue, brought, unwaited⟩ :=
    hearAll_eq crowd (world.log.drop crowd.world.log.length)
  rw [announced.heard] at brought
  obtain ⟨within, written, owes⟩ := Log.records_grown consistent.within told
  exact
    { consistent with
      agrees := (congrArg (Agrees world.coordinator) events).mpr announced.agrees
      belongs := announced.belongs
      starts := (congrArg _ announced.mailbox).trans starts
      within := (congrArg (fun log => crowd.written ≤ (Log.records log).length) events).mpr within
      owes := by
        change ((Log.records (world.log.map Prod.snd)).drop crowd.written).filterMap _ = _
        rw [events, owes, consistent.owes, owed, owed, queue, counters_append, brought,
          List.append_assoc]
      stored := fun username => by
        change _ = Log.latest username ((Log.records (world.log.map Prod.snd)).take crowd.written)
        rw [events, written]
        exact consistent.stored username
      queued := fun number member => by
        rcases List.mem_append.mp (queue ▸ member) with old | new
        · exact consistent.queued number old
        · exact absurd new (unwaited number)
      released := fun number member => consistent.released number (released ▸ member)
      waiting := fun number visit here waits =>
        (consistent.waiting number visit here waits).longer released queue rfl rfl
          (unwaited number)
      ready := fun visit member player read stage => by
        obtain ⟨found, known⟩ := consistent.ready visit member player read stage
        exact ⟨(congrArg (Found · _) events).mpr (found.mono grown), known⟩
      asked := fun reading member => by
        obtain ⟨found, known⟩ := consistent.asked reading (fewer reading member)
        exact ⟨(congrArg (Found · _) events).mpr (found.mono grown), known⟩
      known := fun player starts => by
        rcases List.mem_append.mp ((congrArg (_ ∈ ·) events).mp starts) with old | new
        · exact consistent.known player old
        · exact known player new
      found := fun opening member => by
        obtain ⟨finds, after, split⟩ := found opening member
        exact ⟨finds, after, events.trans split⟩
      opened := (congrArg (EachAfter (Opens openings)) events).mpr opened }

/-- The starts so far stay where they are. -/
theorem found_append (consistent : Consistent crowd) (told : List Event) {opening : Opening}
    (member : opening ∈ crowd.openings) : Found opening.before opening.reading ∧
      ∃ after, crowd.events ++ told =
        opening.before ++ .roundStarted opening.reading.player :: after := by
  obtain ⟨found, after, split⟩ := consistent.found opening member
  refine ⟨found, after ++ told, ?_⟩
  rw [split, List.append_assoc, List.cons_append]

/-- A command that starts no round is handled. -/
theorem deliver_other (consistent : Consistent crowd) {command : Command} {rest : List Command}
    (waits : crowd.world.mailbox = command :: rest) (other : starter? command = none) :
    Consistent (crowd.handle command rest) := by
  have untouched (crowd : Crowd) (before : List Event) (reply : Reply) :
      note crowd before command reply = crowd := by
    cases command with
    | start player => cases other
    | _ => rfl
  have going : ∀ event ∈ published (crowd.world.coordinator.handle crowd.timings
      (.still crowd.world.now) command).2.2, event.starter? = none := by
    rcases Coordinator.handle_opens crowd.timings (.still crowd.world.now)
      crowd.world.coordinator command with others | ⟨player, rest, rfl, -⟩
    · exact others
    · cases other
  have starts := consistent.starts
  rw [waits, List.filterMap_cons_none other] at starts
  refine (congrArg Consistent (untouched _ _ _)).mpr ?_
  exact consistent.handled (consistent.announced waits rfl) crowd.asked crowd.openings starts
    (fun _ member => member) (fun player started => by cases going _ started)
    (fun opening member => consistent.found_append _ member)
    (consistent.opened.append fun event member before => opens_of_going (going event member) _ _)

/-- A start is handled, for which counters have been read. -/
theorem deliver_start (consistent : Consistent crowd) {player : Player} {rest : List Command}
    (waits : crowd.world.mailbox = .start player :: rest) :
    Consistent (crowd.handle (.start player) rest) := by
  have starts := consistent.starts
  rw [waits, List.filterMap_cons_some (rfl : starter? (.start player) = some player)] at starts
  obtain ⟨reading, later, asked, rfl, behind⟩ := List.map_eq_cons_iff.mp starts.symm
  have first : reading ∈ crowd.asked := asked ▸ List.mem_cons_self
  have fewer (other : Reading) (member : other ∈ later) : other ∈ crowd.asked :=
    asked ▸ List.mem_cons_of_mem reading member
  obtain ⟨found, known⟩ := consistent.asked reading first
  rw [Crowd.handle]
  simp only [note, asked]
  rcases accepts_start crowd.timings (.still crowd.world.now) crowd.world.coordinator
    reading.player with ⟨refused, nothing⟩ | ⟨accepted, ended, announced, going⟩
  · have refusal : accepts (({ crowd.world with mailbox := rest } : World).handle crowd.timings
      (.start reading.player)).1 = false := refused
    rw [if_neg (refusal ▸ Bool.false_ne_true), List.append_nil]
    refine consistent.handled (consistent.announced waits nothing) later crowd.openings
      behind.symm fewer
      (fun _ impossible => by cases impossible)
      (fun opening member => consistent.found_append _ member) ?_
    rw [List.append_nil]
    exact consistent.opened
  · have acceptance : accepts (({ crowd.world with mailbox := rest } : World).handle crowd.timings
      (.start reading.player)).1 = true := accepted
    rw [if_pos acceptance]
    refine consistent.handled (consistent.announced waits announced) later _ behind.symm fewer
      (fun other starts => ?_) (fun opening member => ?_) ?_
    · rcases List.mem_cons.mp starts with same | after
      · exact Event.roundStarted.inj same ▸ known
      · cases going _ after
    · rcases List.mem_append.mp member with old | new
      · exact consistent.found_append _ old
      · cases List.mem_singleton.mp new
        exact ⟨found, ended, rfl⟩
    · rw [List.append_cons crowd.events]
      refine EachAfter.append (EachAfter.concat ?_ ?_) fun event member before =>
        opens_of_going (going event member) _ before
      · exact fun before event after split =>
          (consistent.opened before event after split).mono fun _ => List.mem_append_left _
      · exact ⟨_, List.mem_append_right _ List.mem_cons_self, rfl, rfl⟩

theorem deliver (consistent : Consistent crowd) : Consistent (crowd.step .deliver) := by
  rw [Crowd.step]
  split
  · exact consistent
  · rename_i command rest waits
    cases command with
    | start player => exact consistent.deliver_start waits
    | _ => exact consistent.deliver_other waits rfl

end Consistent

/-! ### Runs -/

theorem consistent_initial (timings : Timings) (epoch : Timestamp) :
    Consistent { timings, epoch } where
  agrees := Coordinator.agrees_initial
  belongs := .initial
  starts := rfl
  within := Nat.le_refl _
  owes := rfl
  stored _ := rfl
  queued _ waits := by cases waits
  released _ released := by cases released
  waiting _ _ here := by cases here
  ready _ visit := by cases visit
  asked _ reading := by cases reading
  known _ starts := by cases starts
  found _ opening := by cases opening
  opened := .nil

/-- **After any steps the crowd is consistent.** -/
theorem consistent_of_run (timings : Timings) (epoch : Timestamp) (steps : List Step) :
    Consistent (after timings epoch steps) := by
  refine List.foldlRecOn _ _ (consistent_initial timings epoch) fun crowd consistent step _ => ?_
  cases step with
  | register wall credentials => exact consistent.register wall credentials
  | arrive credentials => exact consistent.arrive credentials
  | login visit wall => exact consistent.login visit wall
  | send visit => exact consistent.send visit
  | ask request => exact consistent.ask request
  | deliver => exact consistent.deliver
  | fire ticket outcome => exact consistent.fire ticket outcome
  | wait span => exact consistent.wait span
  | take => exact consistent.take
  | call wall => exact consistent.call wall

end TimedQuiz.Crowd
