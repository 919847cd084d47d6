/-
**Which sounds the devices are sent.**

Whatever else listens on the bus: as long as the forwarder and the cue player are registered once
each, every event goes to the devices with the sound that the cue player finds for it.

* `App.sentFor`: the messages that an announcement sends.
* `App.sounds_eq`: the sounds of a run are those the cue player hears of.
* `App.cues_of_run`: muting hides sounds and does nothing else, and a tick sounds if it shows
  another second than the tick before it.
-/

import Mathlib.Data.List.Basic
import TimedQuiz.Proofs.App.Listening
import TimedQuiz.Proofs.Sound

namespace TimedQuiz

/-! ### Messages of sounds -/

namespace Feed.Message

/-- The message tells the devices to play a sound. -/
def isSound (message : Message) : Bool := message.event == some "sound"

theorem isSound_ofEvent (wall : Timestamp) (event : Event) :
    (ofEvent wall event).isSound = false := by
  cases event <;> simp [ofEvent, named, isSound]

theorem isSound_ofCue (cue : Cue) : (ofCue cue).isSound = true := by
  simp [ofCue, named, isSound]

/-- A cue is sent with sounds, and not with the events that are forwarded. -/
theorem filter_ofCue (cue : Option Cue) :
    (cue.map ofCue).toList.filter isSound = (cue.map ofCue).toList ∧
      ((cue.map ofCue).toList.filter fun message => !message.isSound) = [] := by
  cases cue with
  | none => exact ⟨rfl, rfl⟩
  | some cue => simp [isSound_ofCue]

/-- No other cue sends the message of a tick. -/
theorem ofCue_eq_tick_iff (cue : Cue) : ofCue cue = ofCue .tick ↔ cue = .tick := by
  cases cue <;> decide

end Feed.Message

namespace App

open Feed (Message)

/-! ### What a listener sends -/

/-- What is sent to the devices when an observer hears of an event. -/
def sends (sound : Sound) (wall : Timestamp) (event : Event) : Observer → List Message
  | .feed => [.ofEvent wall event]
  | .cues => ((sound.hear event).1.map .ofCue).toList
  | .recorder => []

theorem sent_broadcast (app : App) (message : Message) :
    (app.broadcast message).hub.sent.toList = app.hub.sent.toList ++ [message] := by
  rw [broadcast, Feed.Hub.broadcast, Array.toList_push]

theorem sent_hear (wall : Timestamp) (event : Event) (app : App) (observer : Observer) :
    (hear wall event app observer).hub.sent.toList =
      app.hub.sent.toList ++ sends app.sound wall event observer := by
  cases observer with
  | feed => exact sent_broadcast app _
  | recorder => exact (List.append_nil _).symm
  | cues =>
    rw [hear, sends]
    obtain ⟨cue, sound⟩ := app.sound.hear event
    cases cue with
    | none => exact (List.append_nil _).symm
    | some cue => exact sent_broadcast { app with sound } _

theorem sound_hear (wall : Timestamp) (event : Event) (app : App) (observer : Observer) :
    (hear wall event app observer).sound =
      if observer = .cues then (app.sound.hear event).2 else app.sound := by
  cases observer with
  | feed => rfl
  | recorder => rfl
  | cues =>
    rw [hear]
    obtain ⟨cue, sound⟩ := app.sound.hear event
    cases cue <;> rfl

/-- Listeners speak one after the other; the cue player is among them at most once. -/
theorem foldl_hear (wall : Timestamp) (event : Event) (app : App) (listeners : List Observer)
    (once : listeners.count .cues ≤ 1) :
    (listeners.foldl (hear wall event) app).hub.sent.toList =
        app.hub.sent.toList ++ listeners.flatMap (sends app.sound wall event) ∧
      (listeners.foldl (hear wall event) app).sound =
        if .cues ∈ listeners then (app.sound.hear event).2 else app.sound := by
  induction listeners generalizing app with
  | nil => exact ⟨(List.append_nil _).symm, rfl⟩
  | cons observer rest ih =>
    obtain ⟨sent, sound⟩ := ih (hear wall event app observer)
      (Nat.le_trans (List.count_le_count_cons ..) once)
    rw [List.foldl_cons, sent, sound, sent_hear, sound_hear, List.append_assoc, List.flatMap_cons]
    by_cases own : observer = .cues
    · -- The cue player is not among the others, so what it remembers does not matter to them.
      subst own
      rw [List.count_cons_self] at once
      have others : .cues ∉ rest :=
        List.count_eq_zero.mp (Nat.le_zero.mp (Nat.le_of_succ_le_succ once))
      rw [if_neg others, if_pos rfl, if_pos List.mem_cons_self]
      refine ⟨congrArg _ (congrArg _ (List.flatMap_congr fun other member => ?_)), rfl⟩
      cases other with
      | feed => rfl
      | recorder => rfl
      | cues => exact absurd member others
    · rw [if_neg own]
      refine ⟨rfl, if_congr ?_ rfl rfl⟩
      rw [List.mem_cons, or_iff_right (Ne.symm own)]

/-! ### What an announcement sends -/

/-- The forwarder hears of every event once, and the cue player once of every event that can bring a
cue. -/
structure Connected (bus : Bus Observer) : Prop where
  feed : ∀ event, ((bus.recipients event).map Registration.listener).count .feed = 1
  cues : ∀ event, ((bus.recipients event).map Registration.listener).count .cues =
    if event.kind ∈ Sound.kinds then 1 else 0

theorem connected_standardBus : Connected standardBus where
  feed event := by cases event <;> rfl
  cues event := by cases event <;> rfl

/-- The messages sent to the devices when an event is announced at an instant. -/
def sentFor (app : App) (entry : Span × Event) : List Message :=
  (app.announce entry.1 entry.2).hub.sent.toList.drop app.hub.sent.size

theorem flatMap_ite_eq {α β : Type} [DecidableEq α] (entries : List α) (chosen : α)
    (values : List β) :
    (entries.flatMap fun entry => if entry = chosen then values else []) =
      (List.replicate (entries.count chosen) values).flatten := by
  induction entries with
  | nil => rfl
  | cons entry rest ih =>
    rw [List.flatMap_cons, ih, List.count_cons]
    by_cases same : entry = chosen
    · rw [if_pos same, beq_iff_eq.mpr same, if_pos rfl, List.replicate_succ, List.flatten_cons]
    · rw [if_neg same, beq_false_of_ne same]
      rfl

/-- An event of another kind is nothing to the cue player. -/
theorem hear_of_not_mem_kinds (sound : Sound) {event : Event} (other : event.kind ∉ Sound.kinds) :
    sound.hear event = (none, sound) := by
  cases event with
  | puzzleLoaded _ | scoreChanged _ =>
    rw [Sound.hear, Sound.cueFor]
    exact Prod.ext (ite_self _) rfl
  | _ => exact absurd (by simp [Event.kind, Sound.kinds]) other

section Announce

variable {app : App} (connected : Connected app.bus) (entry : Span × Event)
include connected

theorem announce_eq :
    (app.announce entry.1 entry.2).hub.sent.toList = app.hub.sent.toList ++ app.sentFor entry ∧
      app.sentFor entry = ((app.bus.recipients entry.2).map Registration.listener).flatMap
        (sends app.sound (app.wallAt entry.1) entry.2) ∧
      (app.announce entry.1 entry.2).sound = (app.sound.hear entry.2).2 := by
  have listening := connected.cues entry.2
  have once : ((app.bus.recipients entry.2).map Registration.listener).count .cues ≤ 1 := by
    rw [listening]
    split <;> decide
  obtain ⟨sent, sound⟩ := foldl_hear (app.wallAt entry.1) entry.2 app _ once
  rw [List.foldl_map] at sent sound
  have own : app.sentFor entry =
      ((app.bus.recipients entry.2).map Registration.listener).flatMap
        (sends app.sound (app.wallAt entry.1) entry.2) := by
    rw [sentFor, announce, sent, ← Array.length_toList, List.drop_left]
  refine ⟨?_, own, ?_⟩
  · rw [own]
    exact sent
  · refine sound.trans ?_
    by_cases known : entry.2.kind ∈ Sound.kinds
    · rw [if_pos known] at listening
      rw [if_pos (List.count_pos_iff.mp (by rw [listening]; exact Nat.one_pos))]
    · rw [if_neg known] at listening
      rw [if_neg (List.count_eq_zero.mp listening), hear_of_not_mem_kinds _ known]

theorem sent_announce :
    (app.announce entry.1 entry.2).hub.sent.toList = app.hub.sent.toList ++ app.sentFor entry :=
  (announce_eq connected entry).1

theorem sound_announce : (app.announce entry.1 entry.2).sound = (app.sound.hear entry.2).2 :=
  (announce_eq connected entry).2.2

/-- Messages that only one observer sends. -/
theorem filter_sentFor {keep : Message → Bool} (chosen : Observer) (messages : List Message)
    (single : ∀ observer, (sends app.sound (app.wallAt entry.1) entry.2 observer).filter keep =
      if observer = chosen then messages else []) :
    (app.sentFor entry).filter keep =
      (List.replicate (((app.bus.recipients entry.2).map Registration.listener).count chosen)
        messages).flatten := by
  rw [(announce_eq connected entry).2.1, List.filter_flatMap,
    List.flatMap_congr fun observer _ => single observer, flatMap_ite_eq]

/-- **The sound of an event is the one the cue player finds for it.** -/
theorem filter_isSound_sentFor :
    (app.sentFor entry).filter Message.isSound =
      ((app.sound.hear entry.2).1.map Message.ofCue).toList := by
  refine (filter_sentFor connected entry .cues ((app.sound.hear entry.2).1.map Message.ofCue).toList
    fun observer => ?_).trans ?_
  · cases observer with
    | feed => simp [sends, Message.isSound_ofEvent]
    | recorder => rfl
    | cues => exact (Message.filter_ofCue _).1
  · rw [connected.cues]
    split
    · rw [List.replicate_one, List.flatten_singleton]
    · rename_i other
      rw [hear_of_not_mem_kinds _ other]
      rfl

/-- **Besides the sound an event is forwarded once.** -/
theorem filter_not_isSound_sentFor :
    ((app.sentFor entry).filter fun message => !message.isSound) =
      [Message.ofEvent (app.wallAt entry.1) entry.2] := by
  refine (filter_sentFor connected entry .feed [Message.ofEvent (app.wallAt entry.1) entry.2]
    fun observer => ?_).trans ?_
  · cases observer with
    | feed => simp [sends, Message.isSound_ofEvent]
    | recorder => rfl
    | cues => exact (Message.filter_ofCue _).2
  · rw [connected.feed, List.replicate_one, List.flatten_singleton]

end Announce

/-! ### Runs -/

/-- What happens to the cue player happens to the application. -/
def undergo (app : App) : Happening → App
  | .announced entry => app.announce entry.1 entry.2
  | .muted value => { app with sound := app.sound.setMuted value }

/-- The application after all that happens. -/
def through (app : App) (happenings : List Happening) : App := happenings.foldl undergo app

/-- The messages of sounds that are sent for each event announced. -/
def sounds (app : App) : List Happening → List (List Message)
  | [] => []
  | .announced entry :: rest =>
    (app.sentFor entry).filter Message.isSound :: sounds (app.undergo (.announced entry)) rest
  | .muted value :: rest => sounds (app.undergo (.muted value)) rest

/-- The seconds of the ticks that sound, in order. -/
def cuedSeconds (app : App) : List (Span × Event) → List Nat
  | [] => []
  | entry :: rest =>
    (if .ofCue .tick ∈ app.sentFor entry then entry.2.second?.toList else []) ++
      cuedSeconds (app.undergo (.announced entry)) rest

section Run

variable {app : App} (connected : Connected app.bus)
include connected

theorem connected_undergo (happening : Happening) : Connected (app.undergo happening).bus := by
  cases happening with
  | muted value => exact connected
  | announced entry =>
    have same : (app.undergo (.announced entry)).bus = app.bus :=
      (announce_alike app entry.1 entry.2).bus
    rw [same]
    exact connected

/-- **The sounds of a run are those the cue player finds.** -/
theorem sounds_eq (happenings : List Happening) :
    app.sounds happenings =
      (app.sound.heard happenings).map fun cue => (cue.map Message.ofCue).toList := by
  induction happenings generalizing app with
  | nil => rfl
  | cons happening rest ih =>
    have later := ih (connected_undergo connected happening)
    cases happening with
    | muted value => exact later
    | announced entry =>
      rw [sounds, later, filter_isSound_sentFor connected, Sound.heard, List.map_cons]
      exact congrArg _ (by rw [undergo, sound_announce connected])

/-- Sounds are sent for the events announced, and at no other time. -/
theorem sounds_sent (happenings : List Happening) :
    (app.through happenings).hub.sent.toList.filter Message.isSound =
      app.hub.sent.toList.filter Message.isSound ++ (app.sounds happenings).flatten := by
  induction happenings generalizing app with
  | nil => exact (List.append_nil _).symm
  | cons happening rest ih =>
    have later := ih (connected_undergo connected happening)
    rw [through, List.foldl_cons]
    refine later.trans ?_
    cases happening with
    | muted value => rfl
    | announced entry =>
      rw [undergo, sent_announce connected, List.filter_append, sounds, List.flatten_cons,
        List.append_assoc]
      rfl

/-- **Muting only masks the sounds.** -/
theorem sounds_eq_masked (happenings : List Happening) :
    app.sounds happenings =
      List.zipWith (fun muted messages => if muted then [] else messages)
        (Happening.mutings app.sound.muted happenings)
        ((app.undergo (.muted false)).sounds (happenings.filter Happening.isAnnounced)) := by
  have unmuted : Connected (app.undergo (.muted false)).bus := connected
  rw [sounds_eq connected, sounds_eq unmuted, Sound.heard_eq_masked, List.map_zipWith,
    List.zipWith_map_right]
  refine congrFun (congrFun (congrArg _ ?_) _) _
  funext muted cue
  cases muted <;> rfl

/-- What the cue player remembers after some announcements. -/
theorem sound_through (entries : List (Span × Event)) :
    (app.through (entries.map .announced)).sound = app.sound.after (entries.map Prod.snd) := by
  induction entries generalizing app with
  | nil => rfl
  | cons entry rest ih =>
    refine (ih (connected_undergo connected (.announced entry))).trans ?_
    rw [undergo, sound_announce connected]
    rfl

theorem connected_through (happenings : List Happening) :
    Connected (app.through happenings).bus := by
  refine List.foldlRecOn (motive := fun current : App => Connected current.bus) happenings _
    connected ?_
  exact fun current connected happening _ => connected_undergo connected happening

/-- While it is not muted, the cue player is heard. -/
theorem ofCue_tick_mem_sentFor (unmuted : app.sound.muted = false) (entry : Span × Event) :
    .ofCue .tick ∈ app.sentFor entry ↔ (app.sound.cueFor entry.2).1 = some .tick := by
  have sound : .ofCue .tick ∈ app.sentFor entry ↔
      .ofCue .tick ∈ (app.sentFor entry).filter Message.isSound := by
    rw [List.mem_filter, and_iff_left (Message.isSound_ofCue .tick)]
  rw [sound, filter_isSound_sentFor connected, Sound.hear_of_unmuted unmuted]
  cases (app.sound.cueFor entry.2).1 with
  | none => exact iff_of_false List.not_mem_nil (by rintro ⟨⟩)
  | some cue =>
    refine List.mem_singleton.trans ?_
    rw [eq_comm, Message.ofCue_eq_tick_iff, Option.some.injEq]

theorem cuedSeconds_eq (unmuted : app.sound.muted = false) (entries : List (Span × Event)) :
    app.cuedSeconds entries = app.sound.cuedSeconds (entries.map Prod.snd) := by
  induction entries generalizing app with
  | nil => rfl
  | cons entry rest ih =>
    have next : (app.undergo (.announced entry)).sound = (app.sound.cueFor entry.2).2 :=
      sound_announce connected entry
    rw [cuedSeconds, List.map_cons, Sound.cuedSeconds,
      ih (connected_undergo connected _) (by rw [next, Sound.muted_cueFor, unmuted]), next]
    simp only [ofCue_tick_mem_sentFor connected unmuted]

section Unmuted

variable (unmuted : app.sound.muted = false) (fresh : app.sound.lastSecond = none)
include unmuted

theorem unmuted_through (entries : List (Span × Event)) :
    (app.through (entries.map .announced)).sound.muted = false := by
  rw [sound_through connected, Sound.muted_after, unmuted]

include fresh

/-- **A tick sounds if it shows another second than the last one of the round, and not zero.** -/
theorem filter_isSound_tick (before : List (Span × Event)) (instant remaining : Span) :
    ((app.through (before.map .announced)).sentFor (instant, .tick remaining)).filter
        Message.isSound =
      if 1 ≤ remaining.shownSeconds ∧
          Log.lastSecond? (before.map Prod.snd) ≠ some remaining.shownSeconds
        then [.ofCue .tick] else [] := by
  have heard := unmuted_through connected unmuted before
  have reached := connected_through connected (before.map .announced)
  refine (filter_isSound_sentFor reached (instant, .tick remaining)).trans ?_
  rw [Sound.hear_of_unmuted heard, Sound.cueFor_tick, sound_through connected,
    Sound.lastSecond_after _ fresh]
  split <;> rfl

/-- **In a round whose times never rise, every second shown sounds once, and zero never.** -/
theorem cuedSeconds_of_round (before : List (Span × Event)) (instant : Span) (player : Player)
    {round : List (Span × Event)} (going : ∀ entry ∈ round, entry.2.starter? = none)
    (falling : ((round.map Prod.snd).filterMap Event.remaining?).Pairwise (· ≥ ·)) :
    let started := app.through ((before ++ [(instant, Event.roundStarted player)]).map .announced)
    (started.cuedSeconds round).Nodup ∧
      ∀ second, second ∈ started.cuedSeconds round ↔
        1 ≤ second ∧ second ∈ (round.map Prod.snd).filterMap Event.second? := by
  intro started
  have reached := connected_through connected
    ((before ++ [(instant, Event.roundStarted player)]).map .announced)
  have heard : started.sound.muted = false := unmuted_through connected unmuted _
  have nothing : started.sound.lastSecond = none := by
    refine (congrArg Sound.lastSecond (sound_through connected _)).trans ?_
    rw [Sound.lastSecond_after _ fresh, List.map_append, List.map_singleton,
      Log.lastSecond?_concat]
    rfl
  obtain ⟨distinct, cued⟩ := started.sound.cuedSeconds_of_falling
    (List.forall_mem_map.mpr going) (pairwise_positiveSeconds falling)
    (by rw [nothing]; rintro last ⟨⟩)
  rw [cuedSeconds_eq reached heard]
  refine ⟨distinct, fun second => ?_⟩
  rw [cued, mem_positiveSeconds, nothing]
  exact and_iff_left fun same => by cases same

end Unmuted
end Run

/-! ### The main result -/

/-- **Sounds follow the seconds shown, and muting only masks them.** On a bus with the forwarder and
a new cue player, whatever is announced and whenever the cue player is muted and unmuted: the sounds
sent are those of the run that is never muted, without the ones that fell while it was muted. In the
run that is never muted, a tick sounds exactly if the second of its message is not zero and not the
last one above zero that was shown since the round started. So in a round whose remaining times
never rise, every second shown sounds once, and zero never. -/
theorem cues_of_run {app : App} (connected : Connected app.bus)
    (fresh : app.sound.lastSecond = none) :
    let never := app.undergo (.muted false)
    (∀ happenings,
      (app.through happenings).hub.sent.toList.filter Message.isSound =
        app.hub.sent.toList.filter Message.isSound ++ (app.sounds happenings).flatten ∧
      app.sounds happenings =
        List.zipWith (fun muted messages => if muted then [] else messages)
          (Happening.mutings app.sound.muted happenings)
          (never.sounds (happenings.filter Happening.isAnnounced))) ∧
    (∀ (before : List (Span × Event)) (instant remaining : Span),
      let sent := (never.through (before.map .announced)).sentFor (instant, .tick remaining)
      (sent.filter fun message => !message.isSound) =
        [.named "tick" (.object [
          ("remaining_ms", .whole remaining.shownMillis),
          ("remaining_secs", .whole remaining.shownSeconds)])] ∧
      sent.filter Message.isSound =
        if 1 ≤ remaining.shownSeconds ∧
            Log.lastSecond? (before.map Prod.snd) ≠ some remaining.shownSeconds
          then [.ofCue .tick] else []) ∧
    (∀ (before : List (Span × Event)) (instant : Span) (player : Player)
        (round : List (Span × Event)),
      (∀ entry ∈ round, entry.2.starter? = none) →
      ((round.map Prod.snd).filterMap Event.remaining?).Pairwise (· ≥ ·) →
        let started :=
          never.through ((before ++ [(instant, Event.roundStarted player)]).map .announced)
        (started.cuedSeconds round).Nodup ∧
        ∀ second, second ∈ started.cuedSeconds round ↔
          1 ≤ second ∧ second ∈ (round.map Prod.snd).filterMap Event.second?) := by
  intro never
  have unmuted : Connected never.bus := connected
  refine ⟨fun happenings => ⟨sounds_sent connected happenings, sounds_eq_masked connected _⟩,
    fun before instant remaining => ⟨?_, ?_⟩, fun before instant player round going falling => ?_⟩
  · exact filter_not_isSound_sentFor (connected_through unmuted _) (instant, .tick remaining)
  · exact filter_isSound_tick unmuted rfl fresh before instant remaining
  · exact cuedSeconds_of_round unmuted rfl fresh before instant player going falling

/-- Ticks of a round, of which two show the same second and one shows zero. -/
def fourTicks : List (Span × Event) :=
  [3000, 2100, 1500, 0].map fun millis => (0, .tick (Span.ofMillis millis))

/-- Three and two are cued once each. -/
theorem cues_of_fourTicks :
    let started := ({} : App).through [.muted false, .announced (0, .roundStarted (.fresh "alice"))]
    Connected ({} : App).bus ∧ ({} : App).sound.lastSecond = none ∧
      (started.cuedSeconds fourTicks).Nodup ∧
      ∀ second, second ∈ started.cuedSeconds fourTicks ↔ second = 3 ∨ second = 2 := by
  intro started
  have fresh : ({} : App).sound.lastSecond = none := rfl
  obtain ⟨-, -, once⟩ := cues_of_run connected_standardBus fresh
  obtain ⟨distinct, cued⟩ := once [] 0 (.fresh "alice") fourTicks (by decide) (by decide)
  refine ⟨connected_standardBus, fresh, distinct, fun second => (cued second).trans ?_⟩
  have shown : (fourTicks.map Prod.snd).filterMap Event.second? = [3, 3, 2, 0] := by decide
  rw [shown]
  simp only [List.mem_cons, List.not_mem_nil, or_false]
  omega

end App
end TimedQuiz
