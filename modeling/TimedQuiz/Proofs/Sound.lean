/-
**Which events are cued.**

The memory of the cue player is the second shown last in the round, as the log of the events tells
it. Muting does not reach the memory, so it takes cues away and changes no other.

* `Sound.heard_eq_masked`: the cues of a run are those of the run that is never muted, without the
  ones that fell while it was muted.
* `Sound.lastSecond_after`: what is remembered after some events.
* `Sound.cuedSeconds_of_falling`: where the seconds never rise, each of them is cued once.
-/

import Mathlib.Data.List.Induction
import TimedQuiz.Proofs.Log
import TimedQuiz.Sound

namespace TimedQuiz

/-! ### The seconds shown -/

namespace Event

/-- The time left that a tick tells. -/
def remaining? : Event → Option Span
  | tick remaining => some remaining
  | _ => none

/-- The second that a tick shows. -/
def second? (event : Event) : Option Nat := event.remaining?.map Span.shownSeconds

/-- The second that a tick shows, if it is not zero. -/
def positiveSecond? (event : Event) : Option Nat :=
  event.second?.filter fun second => decide (1 ≤ second)

end Event

/-- More time left shows no smaller second. -/
theorem Span.shownSeconds_mono {less more : Span} (le : less ≤ more) :
    shownSeconds less ≤ shownSeconds more := by
  have whole : millis less ≤ millis more := Nat.div_le_div_right le
  have millis : shownMillis less ≤ shownMillis more := by
    rw [shownMillis, shownMillis]
    omega
  exact Nat.div_le_div_right (Nat.add_le_add_right millis _)

theorem mem_positiveSeconds (events : List Event) (second : Nat) :
    second ∈ events.filterMap Event.positiveSecond? ↔
      1 ≤ second ∧ second ∈ events.filterMap Event.second? := by
  simp only [List.mem_filterMap, Event.positiveSecond?, Option.filter_eq_some_iff,
    decide_eq_true_eq]
  exact ⟨fun ⟨event, member, shown, positive⟩ => ⟨positive, event, member, shown⟩,
    fun ⟨positive, event, member, shown⟩ => ⟨event, member, shown, positive⟩⟩

/-- Times that never rise show seconds that never rise. -/
theorem pairwise_positiveSeconds {events : List Event}
    (falling : (events.filterMap Event.remaining?).Pairwise (· ≥ ·)) :
    (events.filterMap Event.positiveSecond?).Pairwise (· ≥ ·) := by
  rw [List.pairwise_filterMap] at falling ⊢
  refine falling.imp fun {first later} ordered former shown latter shownLater => ?_
  obtain ⟨more, told, rfl⟩ := Option.map_eq_some_iff.mp (Option.filter_eq_some_iff.mp shown).1
  obtain ⟨less, toldLater, rfl⟩ :=
    Option.map_eq_some_iff.mp (Option.filter_eq_some_iff.mp shownLater).1
  exact Span.shownSeconds_mono (ordered more told less toldLater)

/-- The last second above zero that was shown since the start. -/
def Log.lastSecond? (log : List Event) : Option Nat :=
  (sinceStart log).reverse.findSome? Event.positiveSecond?

theorem Log.lastSecond?_concat (log : List Event) (event : Event) :
    lastSecond? (log ++ [event]) =
      if event.starter?.isNone then event.positiveSecond?.or (lastSecond? log) else none := by
  rw [lastSecond?, sinceStart_concat]
  split
  · rw [List.reverse_append, List.reverse_singleton, List.singleton_append, List.findSome?_cons,
      lastSecond?]
    cases event.positiveSecond? <;> rfl
  · rfl

/-! ### The cue of an event -/

namespace Sound

variable (sound : Sound)

/-- A start forgets the second, and a tick above zero replaces it. -/
theorem lastSecond_cueFor (event : Event) :
    (sound.cueFor event).2.lastSecond =
      if event.starter?.isNone then event.positiveSecond?.or sound.lastSecond else none := by
  cases event with
  | tick remaining =>
    rw [cueFor, Event.positiveSecond?, Event.second?, Event.remaining?, Option.map_some,
      Option.filter_some]
    by_cases zero : Span.shownSeconds remaining = 0
    · simp [zero, Event.starter?]
    · simp [zero, Event.starter?, Nat.one_le_iff_ne_zero]
  | _ => rfl

/-- The memory does not depend on muting. -/
theorem cueFor_setMuted (muted : Bool) (event : Event) :
    (sound.setMuted muted).cueFor event =
      ((sound.cueFor event).1, (sound.cueFor event).2.setMuted muted) := by
  cases event with
  | tick remaining =>
    simp only [cueFor, setMuted]
    split <;> rfl
  | _ => rfl

theorem muted_cueFor (event : Event) : (sound.cueFor event).2.muted = sound.muted := by
  cases event with
  | tick remaining =>
    simp only [cueFor]
    split <;> rfl
  | _ => rfl

/-- While it is not muted, the cue player sends every cue it finds. -/
theorem hear_of_unmuted {sound : Sound} (unmuted : sound.muted = false) (event : Event) :
    sound.hear event = sound.cueFor event := by
  rw [hear, unmuted]
  rfl

/-- **A tick is cued if it shows another second than the one remembered, and not zero.** -/
theorem cueFor_tick (remaining : Span) :
    (sound.cueFor (.tick remaining)).1 =
      if 1 ≤ remaining.shownSeconds ∧ sound.lastSecond ≠ some remaining.shownSeconds then some .tick
      else none := by
  rw [cueFor]
  by_cases zero : Span.shownSeconds remaining = 0
  · simp [zero]
  · by_cases same : sound.lastSecond = some (Span.shownSeconds remaining) <;>
      simp [zero, same, Nat.one_le_iff_ne_zero]

/-- The cue of a tick comes with a tick that shows another second than the one remembered. -/
theorem cueFor_eq_tick_iff (event : Event) :
    (sound.cueFor event).1 = some .tick ↔
      ∃ second, event.positiveSecond? = some second ∧ sound.lastSecond ≠ some second := by
  cases event with
  | tick remaining =>
    rw [cueFor_tick, ite_eq_left_iff, Event.positiveSecond?, Event.second?, Event.remaining?]
    simp [Option.filter_some]
  | answerGraded value correct player =>
    cases correct <;> simp [cueFor, Event.positiveSecond?, Event.second?, Event.remaining?]
  | roundEnded player summary =>
    cases passed : summary.passed <;>
      simp [cueFor, passed, Event.positiveSecond?, Event.second?, Event.remaining?]
  | _ => simp [cueFor, Event.positiveSecond?, Event.second?, Event.remaining?]

/-- The memory after some events. -/
def after (events : List Event) : Sound :=
  events.foldl (fun current event => (current.cueFor event).2) sound

theorem muted_after (events : List Event) : (sound.after events).muted = sound.muted := by
  refine List.foldlRecOn (motive := fun current : Sound => current.muted = sound.muted)
    events _ rfl ?_
  exact fun current same event _ => (current.muted_cueFor event).trans same

/-- What is remembered after some events is what their log tells. -/
theorem lastSecond_after (fresh : sound.lastSecond = none) (events : List Event) :
    (sound.after events).lastSecond = Log.lastSecond? events := by
  induction events using List.reverseRecOn with
  | nil => exact fresh
  | append_singleton events event ih =>
    rw [after] at ih ⊢
    rw [List.foldl_append, List.foldl_cons, List.foldl_nil, lastSecond_cueFor, ih,
      Log.lastSecond?_concat]

end Sound

/-! ### Muting -/

/-- What happens to the cue player: an event is announced at an instant, or it is muted or
unmuted. -/
inductive Happening
  | announced (entry : Span × Event)
  | muted (value : Bool)
  deriving DecidableEq, Repr

namespace Happening

/-- An event is announced. -/
def isAnnounced : Happening → Bool
  | announced _ => true
  | muted _ => false

/-- For each event announced, whether it fell while the cue player was muted. -/
def mutings : Bool → List Happening → List Bool
  | _, [] => []
  | current, announced _ :: rest => current :: mutings current rest
  | _, muted value :: rest => mutings value rest

end Happening

namespace Sound

/-- The cue of each event announced. -/
def heard (sound : Sound) : List Happening → List (Option Cue)
  | [] => []
  | .announced (_, event) :: rest => (sound.hear event).1 :: heard (sound.hear event).2 rest
  | .muted value :: rest => heard (sound.setMuted value) rest

/-- **Muting only masks.** The cues of a run are those of the same events without any muting, and
nothing in the place of those that fell while the cue player was muted. -/
theorem heard_eq_masked (sound : Sound) (happenings : List Happening) :
    sound.heard happenings =
      List.zipWith (fun muted cue => if muted then none else cue)
        (Happening.mutings sound.muted happenings)
        ((sound.setMuted false).heard (happenings.filter Happening.isAnnounced)) := by
  induction happenings generalizing sound with
  | nil => rfl
  | cons happening rest ih =>
    cases happening with
    | muted value => exact ih (sound.setMuted value)
    | announced entry =>
      have unmuted : (sound.setMuted false).hear entry.2 =
          ((sound.cueFor entry.2).1, (sound.cueFor entry.2).2.setMuted false) := by
        rw [hear, cueFor_setMuted]
        rfl
      have later := ih (sound.cueFor entry.2).2
      rw [muted_cueFor] at later
      rw [List.filter_cons_of_pos rfl, Happening.mutings, heard, heard, unmuted,
        List.zipWith_cons_cons, ← later]
      rfl

/-! ### One cue for each second -/

/-- The seconds of the ticks that are cued, in order. -/
def cuedSeconds (sound : Sound) : List Event → List Nat
  | [] => []
  | event :: rest =>
    (if (sound.cueFor event).1 = some .tick then event.second?.toList else []) ++
      cuedSeconds (sound.cueFor event).2 rest

section Cons

variable (sound : Sound) {event : Event} (rest : List Event)

theorem cuedSeconds_cons_none (none : event.positiveSecond? = none) :
    sound.cuedSeconds (event :: rest) = (sound.cueFor event).2.cuedSeconds rest := by
  have silent : ¬ (sound.cueFor event).1 = some .tick := by
    rw [cueFor_eq_tick_iff, none]
    rintro ⟨second, ⟨⟩, -⟩
  rw [cuedSeconds, if_neg silent, List.nil_append]

theorem cuedSeconds_cons_some {second : Nat} (shown : event.positiveSecond? = some second) :
    sound.cuedSeconds (event :: rest) =
      (if sound.lastSecond = some second then [] else [second]) ++
        (sound.cueFor event).2.cuedSeconds rest := by
  have cued : (sound.cueFor event).1 = some .tick ↔ sound.lastSecond ≠ some second := by
    rw [cueFor_eq_tick_iff, shown]
    exact ⟨fun ⟨other, same, differs⟩ => Option.some.inj same ▸ differs, fun differs =>
      ⟨second, rfl, differs⟩⟩
  have told : event.second? = some second := (Option.filter_eq_some_iff.mp shown).1
  rw [cuedSeconds, told]
  by_cases same : sound.lastSecond = some second
  · rw [if_neg (cued.not.mpr (not_not_intro same)), if_pos same]
  · rw [if_pos (cued.mpr same), if_neg same, Option.toList_some]

end Cons

/-- **Where the seconds never rise, each of them is cued once.** Only the second that is remembered
from before is not cued again. -/
theorem cuedSeconds_of_falling {round : List Event} (sound : Sound)
    (going : ∀ event ∈ round, event.starter? = none)
    (falling : (round.filterMap Event.positiveSecond?).Pairwise (· ≥ ·))
    (bounded : ∀ last, sound.lastSecond = some last →
      ∀ second ∈ round.filterMap Event.positiveSecond?, second ≤ last) :
    (sound.cuedSeconds round).Nodup ∧
      ∀ second, second ∈ sound.cuedSeconds round ↔
        second ∈ round.filterMap Event.positiveSecond? ∧ sound.lastSecond ≠ some second := by
  -- What carries the induction is that nothing to come is above the second remembered.
  induction round generalizing sound with
  | nil => exact ⟨.nil, fun second => by simp [cuedSeconds]⟩
  | cons event rest ih =>
    have goingRest : ∀ later ∈ rest, later.starter? = none := fun later member =>
      going later (List.mem_cons_of_mem event member)
    have remembered := sound.lastSecond_cueFor event
    rw [going event List.mem_cons_self, Option.isNone_none, if_pos rfl] at remembered
    cases shown : event.positiveSecond? with
    | none =>
      rw [shown, Option.none_or] at remembered
      rw [List.filterMap_cons_none shown] at falling bounded ⊢
      rw [sound.cuedSeconds_cons_none rest shown, ← remembered]
      rw [← remembered] at bounded
      exact ih _ goingRest falling bounded
    | some first =>
      rw [shown, Option.some_or] at remembered
      rw [List.filterMap_cons_some shown] at falling bounded ⊢
      obtain ⟨below, falling⟩ := List.pairwise_cons.mp falling
      obtain ⟨distinct, cued⟩ := ih _ goingRest falling fun last same => by
        rw [remembered, Option.some.injEq] at same
        exact same ▸ below
      rw [remembered] at cued
      rw [sound.cuedSeconds_cons_some rest shown]
      by_cases same : sound.lastSecond = some first
      · refine ⟨by rwa [if_pos same], fun second => ?_⟩
        rw [if_pos same, List.nil_append, cued, same, List.mem_cons]
        grind
      · rw [if_neg same, List.singleton_append]
        refine ⟨List.nodup_cons.mpr ⟨?_, distinct⟩, fun second => ?_⟩
        · rw [cued]
          exact fun again => again.2 rfl
        · -- A second remembered from before is at least the first, so it does not come later.
          have earlier : sound.lastSecond = some second → first ≤ second := fun last =>
            bounded second last first List.mem_cons_self
          rw [List.mem_cons, cued, List.mem_cons]
          grind

end Sound
end TimedQuiz
