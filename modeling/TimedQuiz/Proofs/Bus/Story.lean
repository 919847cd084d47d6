/-
**Everything that acts on a bus set off.**

Listeners act on the bus while events are passed to them, so what comes of a few acts is a tree: a
publication has its deliveries, and within each delivery stand the deeds of the listener. The tree
is told by `Deed`, and `Deed.Follows` says what a deed has to be after a history: whom a publication
is delivered to, what an unsubscription answers, and what a listener does within a delivery. It
tells all of this from the history alone.

* `deliveries_of_run`: whatever is done to a bus, its log tells a story in which every deed follows
  from what was done before it, at any depth.

Publications nest no deeper than there are lists of acts left to do, for every act that is done
inside a listener stands on such a list (`Desk.takeReaction_pending`).
-/

import Mathlib.Algebra.Order.BigOperators.Group.List
import Mathlib.Algebra.Order.Ring.Nat
import TimedQuiz.Proofs.Bus.Registry

namespace TimedQuiz.Bus

/-! ### Stories -/

/-- What was done by an act, with everything that it set off. -/
inductive Deed
  | subscribed (id : Nat) (name : String) (kinds : List Event.Kind)
      (reactions : List (List Act))
  /-- The identity that the name was bound to was unsubscribed; there may have been none. -/
  | unsubscribed (name : String) (id : Option Nat) (removed : Bool)
  /-- An event was passed to some registrations in turn, and their listeners did some deeds. -/
  | published (event : Event) (deliveries : List (Registration String × List Deed))

namespace Deed

/-- The act that was done. -/
def act : Deed → Act
  | subscribed _ name kinds reactions => .subscribe name kinds reactions
  | unsubscribed name _ _ => .unsubscribe name
  | published event _ => .publish event

/-- What the act answered. -/
def answer : Deed → Act.Answer
  | unsubscribed _ (some _) removed => some removed
  | _ => none

mutual

/-- What was done to the bus meanwhile, in order. -/
def moments : Deed → List Moment
  | subscribed id name kinds reactions => [.subscribed id name kinds reactions]
  | unsubscribed _ id _ => id.toList.map .unsubscribed
  | published event deliveries => momentsOfDeliveries event deliveries

def momentsOfDeliveries (event : Event) : List (Registration String × List Deed) → List Moment
  | [] => []
  | (registration, deeds) :: later =>
    (.delivered registration.id event :: momentsOfAll deeds) ++ momentsOfDeliveries event later

/-- What was done to the bus by some deeds, one after the other. -/
def momentsOfAll : List Deed → List Moment
  | [] => []
  | deed :: later => deed.moments ++ momentsOfAll later

end

mutual

/-- What is logged of a deed. -/
def entries : Deed → List Entry
  | subscribed _ _ _ _ => []
  | unsubscribed _ _ _ => []
  | published event deliveries => entriesOfDeliveries event deliveries

/-- Each delivery hands over the event, and the deeds of the listener come after it. -/
def entriesOfDeliveries (event : Event) : List (Registration String × List Deed) → List Entry
  | [] => []
  | (registration, deeds) :: later =>
    (.delivered registration.listener event :: entriesWithin registration.listener deeds) ++
      entriesOfDeliveries event later

/-- What is logged of the deeds of a listener: each is noted once it is done. -/
def entriesWithin (name : String) : List Deed → List Entry
  | [] => []
  | deed :: later =>
    (deed.entries ++ [.acted name deed.act.label deed.answer]) ++ entriesWithin name later

end

mutual

/-- The deed follows from a history. A subscription is made under a fresh identity. An
unsubscription is one of the identity that the name is bound to, and tells whether a registration of
it stood. A publication hands its event to the registrations that stand for its kind as it begins,
to each once and in their order. -/
def Follows (history : List Moment) : Deed → Prop
  | subscribed id _ _ _ => ∀ earlier ∈ history, earlier.id ≠ id
  | unsubscribed name id removed =>
    id = boundTo name history ∧
      ∀ bound, id = some bound →
        (removed = true ↔
          ∃ kind, ∃ registration ∈ standing kind history, registration.id = bound)
  | published event deliveries =>
    deliveries.map Prod.fst = standing event.kind history ∧
      DeliveriesFollow event history deliveries

/-- Within each delivery the listener does what it has to do next, and every deed follows from all
that was done before it, be it in the same delivery or in an earlier one. -/
def DeliveriesFollow (event : Event) (history : List Moment) :
    List (Registration String × List Deed) → Prop
  | [] => True
  | (registration, deeds) :: later =>
    deeds.map act = (remaining registration.id history).headD [] ∧
      AllFollow (history ++ [.delivered registration.id event]) deeds ∧
      DeliveriesFollow event (history ++ .delivered registration.id event :: momentsOfAll deeds)
        later

/-- Every deed follows from the history and the deeds before it. -/
def AllFollow (history : List Moment) : List Deed → Prop
  | [] => True
  | deed :: later => deed.Follows history ∧ AllFollow (history ++ deed.moments) later

end

end Deed

namespace Desk

variable {desk : Desk} {history : List Moment}

/-! ### What is still to be done -/

theorem pendingReactions_eq (desk : Desk) :
    desk.pendingReactions = (desk.reactions.map fun entry => countAll entry.2).sum := by
  rw [pendingReactions, List.sum_eq_foldl, List.foldl_map]

theorem pendingReactions_subscribe (name : String) (kinds : List Event.Kind)
    (reactions : List (List Act)) :
    (desk.subscribe name kinds reactions).pendingReactions =
      countAll reactions + desk.pendingReactions := by
  rw [pendingReactions_eq, pendingReactions_eq]
  rfl

/-- Taking the entry of an identity away leaves no more than the others. -/
theorem sum_filter_lookup {id : Nat} {left : List (List Act)}
    {reactions : List (Nat × List (List Act))} (found : reactions.lookup id = some left) :
    countAll left +
        ((reactions.filter fun entry => entry.1 != id).map fun entry => countAll entry.2).sum ≤
      (reactions.map fun entry => countAll entry.2).sum := by
  induction reactions with
  | nil => cases found
  | cons entry rest ih =>
    obtain ⟨other, lists⟩ := entry
    have shrinks :
        ((rest.filter fun entry => entry.1 != id).map fun entry => countAll entry.2).sum ≤
          (rest.map fun entry => countAll entry.2).sum :=
      (List.filter_sublist.map _).sum_le_sum fun _ _ => Nat.zero_le _
    rw [List.lookup_cons] at found
    by_cases same : id = other
    · rw [same, beq_self_eq_true] at found
      obtain rfl : lists = left := Option.some.inj found
      simp only [same, bne_self_eq_false, Bool.false_eq_true, not_false_eq_true,
        List.filter_cons_of_neg, List.map_cons, List.sum_cons] at shrinks ⊢
      omega
    · rw [beq_false_of_ne same] at found
      have apart : (other != id) = true := bne_iff_ne.mpr (Ne.symm same)
      have less := ih found
      simp only [List.filter_cons, apart, if_true, List.map_cons, List.sum_cons]
      omega

theorem lookup_filter_ne {id other : Nat} (reactions : List (Nat × List (List Act)))
    (apart : other ≠ id) :
    (reactions.filter fun entry => entry.1 != id).lookup other = reactions.lookup other := by
  induction reactions with
  | nil => rfl
  | cons entry rest ih =>
    obtain ⟨found, lists⟩ := entry
    by_cases same : found = id
    · have unfound : (other == found) = false := beq_false_of_ne (same ▸ apart)
      rw [List.filter_cons_of_neg (by simp [same]), ih, List.lookup_cons, unfound]
    · rw [List.filter_cons_of_pos (by simpa using same), List.lookup_cons, List.lookup_cons, ih]

theorem takeReaction_log (desk : Desk) (id : Nat) : (desk.takeReaction id).2.log = desk.log := by
  unfold takeReaction
  split <;> rfl

/-- **What a listener does is taken off what is still to be done.** -/
theorem takeReaction_pending (desk : Desk) (id : Nat) :
    (desk.takeReaction id).1 = [] ∧
        (desk.takeReaction id).2.pendingReactions ≤ desk.pendingReactions ∨
      countEach (desk.takeReaction id).1 + (desk.takeReaction id).2.pendingReactions <
        desk.pendingReactions := by
  unfold takeReaction
  split
  · rename_i acts later found
    right
    have less := sum_filter_lookup found
    rw [pendingReactions_eq, pendingReactions_eq]
    simp only [countAll, List.map_cons, List.sum_cons] at less ⊢
    omega
  · exact Or.inl ⟨rfl, Nat.le_refl _⟩

/-! ### The state and the history -/

/-- The desk is as its history tells. -/
structure Keeps (desk : Desk) (history : List Moment) : Prop where
  numbered : Numbered history
  bus : desk.bus = after history
  bound : ∀ name, desk.bound name = boundTo name history
  reactions : ∀ id, (desk.reactions.lookup id).getD [] = remaining id history

namespace Keeps

theorem initial : Keeps {} [] where
  numbered := .nil
  bus := rfl
  bound _ := rfl
  reactions _ := rfl

theorem note (keeps : desk.Keeps history) (entry : Entry) : (desk.note entry).Keeps history :=
  ⟨keeps.numbered, keeps.bus, keeps.bound, keeps.reactions⟩

theorem subscribe (keeps : desk.Keeps history) (name : String) (kinds : List Event.Kind)
    (reactions : List (List Act)) :
    (desk.subscribe name kinds reactions).Keeps
      (history ++ [.subscribed desk.bus.next name kinds reactions]) where
  numbered := by
    rw [keeps.bus]
    exact keeps.numbered.subscribed name kinds reactions
  bus := by
    rw [after_concat, ← keeps.bus]
    rfl
  bound other := by
    rw [boundTo_subscribed, ← keeps.bound]
    rfl
  reactions id := by
    have fresh := remaining_subscribed keeps.numbered name kinds reactions id
    rw [← keeps.bus, ← keeps.reactions] at fresh
    rw [fresh]
    simp only [Desk.subscribe, Bus.subscribe, List.lookup_cons]
    by_cases same : id = desk.bus.next
    · rw [if_pos same, same, beq_self_eq_true]
      rfl
    · rw [if_neg same, beq_false_of_ne same]

theorem unsubscribe (keeps : desk.Keeps history) {id : Nat}
    (known : id < (after history).next) :
    ({ desk with bus := (desk.bus.unsubscribe id).2 } : Desk).Keeps
      (history ++ [.unsubscribed id]) where
  numbered := keeps.numbered.unsubscribed known
  bus := by
    rw [after_concat, ← keeps.bus]
    rfl
  bound other := by
    rw [boundTo_other other rfl]
    exact keeps.bound other
  reactions other := by
    rw [remaining_unsubscribed]
    exact keeps.reactions other

/-- The listener takes up the next thing that it brought along. -/
theorem takeReaction (keeps : desk.Keeps history) {id : Nat} (event : Event)
    (known : id < (after history).next) :
    (desk.takeReaction id).1 = (remaining id history).headD [] ∧
      (desk.takeReaction id).2.Keeps (history ++ [.delivered id event]) := by
  have left := keeps.reactions id
  have bus : desk.bus = after (history ++ [.delivered id event]) := by
    rw [after_concat]
    exact keeps.bus
  have bound : ∀ name, desk.bound name = boundTo name (history ++ [.delivered id event]) := by
    intro name
    rw [boundTo_other name rfl]
    exact keeps.bound name
  have numbered := keeps.numbered.delivered event known
  unfold Desk.takeReaction
  split
  · rename_i acts later found
    rw [found] at left
    refine ⟨by rw [← left]; rfl, numbered, bus, bound, fun other => ?_⟩
    rw [remaining_delivered, ← left]
    by_cases same : other = id
    · rw [if_pos same, same, List.lookup_cons, beq_self_eq_true]
      rfl
    · rw [if_neg same, List.lookup_cons, beq_false_of_ne same, ← keeps.reactions other]
      congr 1
      exact lookup_filter_ne _ same
  · rename_i untaken
    have none : (desk.reactions.lookup id).getD [] = [] := by
      cases found : desk.reactions.lookup id with
      | none => rfl
      | some lists =>
        cases lists with
        | nil => rfl
        | cons acts later => exact absurd found (untaken acts later)
    rw [none] at left
    refine ⟨by rw [← left]; rfl, numbered, bus, bound, fun other => ?_⟩
    rw [remaining_delivered, ← left]
    split
    · rename_i same
      rw [same]
      exact none
    · exact keeps.reactions other

end Keeps

/-! ### Acts -/

/-- A deed tells what an act came to. -/
structure Tells (desk : Desk) (history : List Moment) (act : Act)
    (outcome : Act.Answer × Desk) (deed : Deed) : Prop where
  acted : deed.act = act
  follows : deed.Follows history
  answer : deed.answer = outcome.1
  keeps : outcome.2.Keeps (history ++ deed.moments)
  log : outcome.2.log = desk.log ++ deed.entries
  pending : outcome.2.pendingReactions ≤ countAct act + desk.pendingReactions

/-- Each act comes to a deed, as long as fewer than `bound` lists of acts are left to do when
something is published. -/
def Plays (bound : Nat) (play : Desk → Act → Act.Answer × Desk) : Prop :=
  ∀ (desk : Desk) (history : List Moment) (act : Act), desk.Keeps history →
    (∀ event, act = .publish event → desk.pendingReactions < bound) →
      ∃ deed, desk.Tells history act (play desk act) deed

theorem tells_subscribe (keeps : desk.Keeps history) (name : String) (kinds : List Event.Kind)
    (reactions : List (List Act)) :
    desk.Tells history (.subscribe name kinds reactions)
      (none, desk.subscribe name kinds reactions)
      (.subscribed desk.bus.next name kinds reactions) where
  acted := rfl
  follows := by
    intro earlier member
    rw [keeps.bus]
    exact Nat.ne_of_lt (keeps.numbered.lt_next member)
  answer := rfl
  keeps := keeps.subscribe name kinds reactions
  log := (List.append_nil _).symm
  pending := Nat.le_of_eq (pendingReactions_subscribe name kinds reactions)

theorem tells_unsubscribe (keeps : desk.Keeps history) (name : String) :
    ∃ deed, desk.Tells history (.unsubscribe name) (desk.unsubscribe name) deed := by
  have bound := keeps.bound name
  unfold Desk.unsubscribe
  cases found : desk.bound name with
  | none =>
    rw [found] at bound
    refine ⟨.unsubscribed name none false, rfl, ⟨bound, ?_⟩, rfl, ?_, ?_, ?_⟩
    · intro id impossible
      cases impossible
    · exact (List.append_nil history).symm ▸ keeps
    · exact (List.append_nil _).symm
    · exact Nat.le_add_left _ _
  | some id =>
    rw [found] at bound
    have known := keeps.numbered.lt_next_of_boundTo bound.symm
    refine ⟨.unsubscribed name (some id) (desk.bus.unsubscribe id).1, rfl, ⟨bound, ?_⟩, rfl,
      keeps.unsubscribe known, (List.append_nil _).symm, Nat.le_add_left _ _⟩
    rintro other same
    obtain rfl : id = other := Option.some.inj same
    rw [keeps.bus]
    exact unsubscribe_iff keeps.numbered id

/-! ### What a listener does -/

/-- Does an act within a delivery to a named listener, and notes it. -/
def noting (play : Desk → Act → Act.Answer × Desk) (name : String) (inner : Desk) (act : Act) :
    Desk :=
  let (answer, next) := play inner act
  next.note (.acted name act.label answer)

/-- Some deeds tell what acts within a delivery came to. -/
theorem exists_deeds {bound : Nat} {play : Desk → Act → Act.Answer × Desk}
    (plays : Plays bound play) (name : String) (acts : List Act) (keeps : desk.Keeps history)
    (enough : acts ≠ [] → countEach acts + desk.pendingReactions < bound) :
    let last := acts.foldl (noting play name) desk
    ∃ deeds : List Deed,
      deeds.map Deed.act = acts ∧ Deed.AllFollow history deeds ∧
        last.Keeps (history ++ Deed.momentsOfAll deeds) ∧
        last.log = desk.log ++ Deed.entriesWithin name deeds ∧
        last.pendingReactions ≤ countEach acts + desk.pendingReactions := by
  induction acts generalizing desk history with
  | nil =>
    refine ⟨[], rfl, trivial, ?_, (List.append_nil _).symm, Nat.le_add_left _ _⟩
    exact (List.append_nil history).symm ▸ keeps
  | cons act rest ih =>
    have room := enough (List.cons_ne_nil _ _)
    rw [countEach] at room
    obtain ⟨deed, told⟩ := plays desk history act keeps fun event _ => by omega
    have spent := told.pending
    obtain ⟨deeds, acts, follow, keepsLast, log, pending⟩ :=
      ih (told.keeps.note (.acted name act.label (play desk act).1))
        fun _ => show countEach rest + (play desk act).2.pendingReactions < bound by omega
    have pending : _ ≤ countEach rest + (play desk act).2.pendingReactions := pending
    refine ⟨deed :: deeds, ?_, ⟨told.follows, follow⟩, ?_, ?_, ?_⟩
    · rw [List.map_cons, told.acted, acts]
    · rw [Deed.momentsOfAll, ← List.append_assoc]
      exact keepsLast
    · rw [List.foldl_cons, noting, log, note, told.log, Deed.entriesWithin, told.acted, told.answer]
      simp only [List.append_assoc]
    · refine Nat.le_trans pending ?_
      rw [countEach]
      omega

/-! ### Publications -/

/-- Passes an event to a registration, and lets its listener act. -/
def deliver (play : Desk → Act → Act.Answer × Desk) (event : Event) (current : Desk)
    (registration : Registration String) : Desk :=
  let noted := current.note (.delivered registration.listener event)
  let (acts, ready) := noted.takeReaction registration.id
  acts.foldl (noting play registration.listener) ready

/-- Some deliveries tell what passing an event to some registrations comes to. -/
theorem exists_deliveries {bound : Nat} {play : Desk → Act → Act.Answer × Desk}
    (plays : Plays bound play) (event : Event) (recipients : List (Registration String))
    (keeps : desk.Keeps history)
    (known : ∀ registration ∈ recipients, registration.id < (after history).next)
    (enough : desk.pendingReactions ≤ bound) :
    let last := recipients.foldl (deliver play event) desk
    ∃ deliveries : List (Registration String × List Deed),
      deliveries.map Prod.fst = recipients ∧ Deed.DeliveriesFollow event history deliveries ∧
        last.Keeps (history ++ Deed.momentsOfDeliveries event deliveries) ∧
        last.log = desk.log ++ Deed.entriesOfDeliveries event deliveries ∧
        last.pendingReactions ≤ desk.pendingReactions := by
  induction recipients generalizing desk history with
  | nil =>
    refine ⟨[], rfl, trivial, ?_, (List.append_nil _).symm, Nat.le_refl _⟩
    exact (List.append_nil history).symm ▸ keeps
  | cons registration rest ih =>
    let noted := desk.note (.delivered registration.listener event)
    have owned := known registration List.mem_cons_self
    obtain ⟨takes, ready⟩ :=
      (keeps.note (.delivered registration.listener event)).takeReaction event owned
    have taken := noted.takeReaction_pending registration.id
    have same : noted.pendingReactions = desk.pendingReactions := rfl
    obtain ⟨deeds, acts, follow, keepsDeeds, logDeeds, pendingDeeds⟩ :=
      exists_deeds plays registration.listener (noted.takeReaction registration.id).1 ready
        fun some => by
          rcases taken with ⟨none, -⟩ | less
          · exact absurd none some
          · exact Nat.lt_of_lt_of_le less enough
    have keepsNext : (deliver play event desk registration).Keeps _ := keepsDeeds
    have shrunk : (deliver play event desk registration).pendingReactions ≤
        desk.pendingReactions := by
      refine Nat.le_trans pendingDeeds ?_
      rcases taken with ⟨none, fewer⟩ | less
      · rw [none, countEach, Nat.zero_add]
        exact fewer
      · exact Nat.le_of_lt less
    have later : ∀ other ∈ rest, other.id < (after
        (history ++ [.delivered registration.id event] ++ Deed.momentsOfAll deeds)).next := by
      intro other member
      rw [List.append_assoc]
      exact Nat.lt_of_lt_of_le (known other (List.mem_cons_of_mem _ member)) (next_le_append _ _)
    obtain ⟨deliveries, recipients, followLater, keepsLast, log, pending⟩ :=
      ih keepsNext later (Nat.le_trans shrunk enough)
    refine ⟨(registration, deeds) :: deliveries, ?_, ⟨?_, follow, ?_⟩, ?_, ?_, ?_⟩
    · rw [List.map_cons, recipients]
    · rw [acts]
      exact takes
    · rwa [List.append_assoc] at followLater
    · rw [Deed.momentsOfDeliveries, ← List.append_assoc, List.append_cons]
      exact keepsLast
    · have begun : (noted.takeReaction registration.id).2.log =
          desk.log ++ [.delivered registration.listener event] := takeReaction_log noted _
      rw [List.foldl_cons, log, Deed.entriesOfDeliveries, deliver, logDeeds]
      rw [begun]
      simp only [List.append_assoc, List.cons_append, List.nil_append]
    · exact Nat.le_trans pending shrunk

/-- A publication is delivered to the registrations that stand as it begins. -/
theorem exists_published {bound : Nat} {play : Desk → Act → Act.Answer × Desk}
    (plays : Plays bound play) (keeps : desk.Keeps history) (event : Event)
    (enough : desk.pendingReactions ≤ bound) :
    ∃ deed, desk.Tells history (.publish event)
      (none, (desk.bus.recipients event).foldl (deliver play event) desk) deed := by
  have standing : desk.bus.recipients event = standing event.kind history := by
    rw [recipients, keeps.bus]
    exact registrations_after keeps.numbered event.kind
  obtain ⟨deliveries, recipients, follow, keepsLast, log, pending⟩ :=
    exists_deliveries plays event (desk.bus.recipients event) keeps
      (fun registration stands =>
        keeps.numbered.lt_next_of_mem_standing (standing ▸ stands)) enough
  refine ⟨.published event deliveries, rfl, ⟨recipients.trans standing, follow⟩, rfl, keepsLast,
    log, ?_⟩
  rw [countAct, Nat.zero_add]
  exact pending

/-- A listener with nothing left to do only has its delivery noted. -/
theorem deliver_of_idle (play : Desk → Act → Act.Answer × Desk) (event : Event)
    (registration : Registration String) (idle : desk.pendingReactions = 0) :
    deliver play event desk registration =
      desk.note (.delivered registration.listener event) := by
  let noted := desk.note (.delivered registration.listener event)
  have none : noted.takeReaction registration.id = ([], noted) := by
    unfold takeReaction
    split
    · rename_i acts later found
      have less := sum_filter_lookup found
      rw [← pendingReactions_eq, countAll, show noted.pendingReactions = 0 from idle] at less
      omega
    · rfl
  rw [deliver, none]
  rfl

/-- So do all, one after the other. -/
theorem foldl_deliver_of_idle (play : Desk → Act → Act.Answer × Desk) (event : Event)
    (recipients : List (Registration String)) (idle : desk.pendingReactions = 0) :
    recipients.foldl (deliver play event) desk =
      recipients.foldl (fun current entry => current.note (.delivered entry.listener event))
        desk := by
  induction recipients generalizing desk with
  | nil => rfl
  | cons registration rest ih =>
    rw [List.foldl_cons, List.foldl_cons, deliver_of_idle play event registration idle]
    exact ih idle

/-! ### Any depth -/

/-- Only publications depend on how deep they may nest. -/
theorem plays_of_published {bound depth : Nat}
    (published : ∀ (desk : Desk) (history : List Moment) (event : Event), desk.Keeps history →
      desk.pendingReactions < bound →
        ∃ deed, desk.Tells history (.publish event) (perform depth desk (.publish event)) deed) :
    Plays bound (perform depth) := by
  intro desk history act keeps enough
  cases act with
  | subscribe name kinds reactions =>
    rw [show perform depth desk (.subscribe name kinds reactions) =
      (none, desk.subscribe name kinds reactions) by cases depth <;> rfl]
    exact ⟨_, tells_subscribe keeps name kinds reactions⟩
  | unsubscribe name =>
    rw [show perform depth desk (.unsubscribe name) = desk.unsubscribe name by
      cases depth <;> rfl]
    exact tells_unsubscribe keeps name
  | publish event => exact published desk history event keeps (enough event rfl)

/-- **Every act comes to a deed**, as long as publications may nest as deep as there are lists of
acts left to do. -/
theorem plays_perform (depth : Nat) : Plays (depth + 1) (perform depth) := by
  induction depth with
  | zero =>
    refine plays_of_published fun desk history event keeps enough => ?_
    have idle : desk.pendingReactions = 0 := Nat.lt_one_iff.mp enough
    -- Nothing can be set off any more: an event that is published now finds nobody who acts.
    have nobody : Plays 0 (perform 0) :=
      plays_of_published fun _ _ _ _ impossible => absurd impossible (Nat.not_lt_zero _)
    have told := exists_published nobody keeps event (Nat.le_of_eq idle)
    rwa [foldl_deliver_of_idle _ _ _ idle] at told
  | succ depth ih =>
    refine plays_of_published fun desk history event keeps enough => ?_
    exact exists_published ih keeps event (Nat.le_of_lt_succ enough)

/-- Does some acts, one after the other, each with everything that it sets off. -/
def actAll (desk : Desk) : List Act → List Act.Answer × Desk
  | [] => ([], desk)
  | act :: later =>
    let (answer, next) := desk.act act
    let (answers, last) := next.actAll later
    (answer :: answers, last)

theorem exists_story (acts : List Act) (keeps : desk.Keeps history) :
    ∃ story : List Deed,
      story.map Deed.act = acts ∧ story.map Deed.answer = (desk.actAll acts).1 ∧
        Deed.AllFollow history story ∧
        (desk.actAll acts).2.Keeps (history ++ Deed.momentsOfAll story) ∧
        (desk.actAll acts).2.log = desk.log ++ story.flatMap Deed.entries := by
  induction acts generalizing desk history with
  | nil =>
    refine ⟨[], rfl, rfl, trivial, ?_, (List.append_nil _).symm⟩
    exact (List.append_nil history).symm ▸ keeps
  | cons act rest ih =>
    obtain ⟨deed, told⟩ := plays_perform (desk.pendingReactions + 1) desk history act keeps
      fun _ _ => Nat.lt_succ_of_lt (Nat.lt_succ_self _)
    obtain ⟨story, acts, answers, follow, keepsLast, log⟩ := ih told.keeps
    refine ⟨deed :: story, ?_, ?_, ⟨told.follows, follow⟩, ?_, ?_⟩
    · rw [List.map_cons, told.acted, acts]
    · rw [List.map_cons, told.answer, answers]
      rfl
    · rw [Deed.momentsOfAll, ← List.append_assoc]
      exact keepsLast
    · rw [List.flatMap_cons, ← List.append_assoc, ← told.log]
      exact log

end Desk

/-! ### The law of the bus -/

/-- **Whatever listeners do, every publication is delivered to those who are registered as it
begins.** The log of any acts tells a story, in which every act of the listeners has its place
within a delivery, and every publication its deliveries. Each deed follows from what was done before
it, at any depth: the event that is published is handed to each registration that stands for its
kind, once and in order; the deeds within a delivery are those that the listener brought along, and
are done before the next delivery; an unsubscription tells whether a registration of its identity
stood, and takes all of these away, the others staying in order. And after every moment of the story
the lists of the bus hold what stands. -/
theorem deliveries_of_run (acts : List Act) :
    let answers := (({} : Desk).actAll acts).1
    let desk := (({} : Desk).actAll acts).2
    ∃ story : List Deed,
      story.map Deed.act = acts ∧ story.map Deed.answer = answers ∧
        Deed.AllFollow [] story ∧ desk.log = story.flatMap Deed.entries ∧
        desk.bus = after (Deed.momentsOfAll story) ∧
        (∀ history, history <+: Deed.momentsOfAll story → ∀ kind,
          (after history).registrations kind = standing kind history) ∧
        ∀ (history : List Moment) (id : Nat) (kind : Event.Kind),
          standing kind (history ++ [.unsubscribed id]) =
            (standing kind history).filter fun registration => registration.id != id := by
  intro answers desk
  obtain ⟨story, acts, told, follow, keeps, log⟩ := Desk.exists_story acts Desk.Keeps.initial
  refine ⟨story, acts, told, follow, log, keeps.bus, ?_, fun _ id _ => standing_unsubscribed id⟩
  rintro history ⟨more, split⟩ kind
  have numbered : Numbered (history ++ more) := split ▸ keeps.numbered
  exact registrations_after numbered.init kind

/-- A listener that removes itself hears no more, and one behind it still hears what was already
under way. -/
example :
    let once := Act.subscribe "once" [.tick] [[.unsubscribe "once"]]
    let steady := Act.subscribe "steady" [.tick] []
    (({} : Desk).actAll [once, steady, .publish (.tick 2), .publish (.tick 1)]).2.log =
      [.delivered "once" (.tick 2), .acted "once" .unsubscribe (some true),
        .delivered "steady" (.tick 2), .delivered "steady" (.tick 1)] := by
  decide

end TimedQuiz.Bus
