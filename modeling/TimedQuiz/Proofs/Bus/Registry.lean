/-
**Who is registered, told from what has been done to the bus.**

A history lists what has been done to a bus in the order in which it was done, inside listeners or
outside. A registration stands as long as its identity has not been unsubscribed since the
registration was made.

* `registrations_after`: after any history the list of a kind holds exactly the registrations that
  stand, in the order in which they were made.
* `unsubscribe_iff`: an unsubscription tells whether a registration of its identity stood.
* `remaining_delivered`: a listener does at each delivery the next thing that it brought along.

What is told here does not look at the lists of the bus: who stands is read off the history alone.
-/

import Mathlib.Data.List.Induction
import TimedQuiz.Bus.Reentry
import TimedQuiz.Proofs.Log

namespace TimedQuiz.Bus

/-! ### Histories -/

/-- One thing done to a bus. -/
inductive Moment
  /-- A listener is registered under an identity and brings along what it will do. -/
  | subscribed (id : Nat) (name : String) (kinds : List Event.Kind)
      (reactions : List (List Act))
  /-- The registrations of an identity are removed. -/
  | unsubscribed (id : Nat)
  /-- An event is passed to the listener of an identity. -/
  | delivered (id : Nat) (event : Event)

namespace Moment

/-- The identity that it is about. -/
def id : Moment → Nat
  | subscribed id _ _ _ => id
  | unsubscribed id => id
  | delivered id _ => id

/-- The registrations that are made for a kind: a kind named twice gets two. -/
def made (kind : Event.Kind) : Moment → List (Registration String)
  | subscribed id name kinds _ => List.replicate (kinds.count kind) { id, listener := name }
  | _ => []

/-- It removes the registrations of an identity. -/
def removes (id : Nat) : Moment → Bool
  | unsubscribed other => other == id
  | _ => false

/-- It passes an event to the listener of an identity. -/
def delivers (id : Nat) : Moment → Bool
  | delivered other _ => other == id
  | _ => false

/-- The identity that is subscribed under a name. -/
def named? (name : String) : Moment → Option Nat
  | subscribed id other _ _ => if other = name then some id else none
  | _ => none

/-- What the listener of an identity brings along. -/
def brought? (id : Nat) : Moment → Option (List (List Act))
  | subscribed other _ _ reactions => if other = id then some reactions else none
  | _ => none

/-- What it makes of a bus. -/
def on (bus : Bus String) : Moment → Bus String
  | subscribed _ name kinds _ => (bus.subscribe kinds name).2
  | unsubscribed id => (bus.unsubscribe id).2
  | delivered _ _ => bus

end Moment

variable {history : List Moment} {moment : Moment} {kind : Event.Kind}

/-- The bus after a history. -/
def after (history : List Moment) : Bus String := history.foldl Moment.on {}

/-- The registrations for a kind that have not been removed since they were made, in the order in
which they were made. -/
def standing (kind : Event.Kind) : List Moment → List (Registration String)
  | [] => []
  | moment :: later =>
    ((moment.made kind).filter fun registration => !later.any (Moment.removes registration.id)) ++
      standing kind later

/-- The identity that a name is bound to: the latest one subscribed under it. -/
def boundTo (name : String) (history : List Moment) : Option Nat :=
  history.reverse.findSome? (Moment.named? name)

/-- What the listener of an identity has not done yet of what it brought along. -/
def remaining (id : Nat) (history : List Moment) : List (List Act) :=
  ((history.findSome? (Moment.brought? id)).getD []).drop (history.countP (Moment.delivers id))

/-- Identities are given out one after the other, and nothing is done to one before it is given
out. -/
def Numbered (history : List Moment) : Prop :=
  EachAfter (fun before => fun
    | .subscribed id _ _ _ => id = (after before).next
    | other => other.id < (after before).next) history

/-! ### One more moment -/

theorem after_concat : after (history ++ [moment]) = moment.on (after history) := by
  rw [after, List.foldl_append]
  rfl

/-- Identities that have been given out are never given out again. -/
theorem next_le_on (bus : Bus String) (moment : Moment) : bus.next ≤ (moment.on bus).next := by
  cases moment with
  | subscribed id name kinds reactions => exact Nat.le_succ _
  | _ => exact Nat.le_refl _

theorem next_le_append (history more : List Moment) :
    (after history).next ≤ (after (history ++ more)).next := by
  rw [after, after, List.foldl_append]
  refine List.foldlRecOn (motive := fun bus : Bus String => (after history).next ≤ bus.next) more _
    (Nat.le_refl _) fun bus below moment _ => ?_
  exact Nat.le_trans below (next_le_on bus moment)

theorem standing_append (more : List Moment) :
    standing kind (history ++ more) =
      ((standing kind history).filter fun registration =>
        !more.any (Moment.removes registration.id)) ++ standing kind more := by
  induction history with
  | nil => rfl
  | cons first rest ih =>
    simp only [List.cons_append, standing, ih, List.filter_append, List.filter_filter,
      List.any_append, Bool.not_or, Bool.and_comm, List.append_assoc]

/-- What is made comes last. -/
theorem standing_subscribed (id : Nat) (name : String) (kinds : List Event.Kind)
    (reactions : List (List Act)) :
    standing kind (history ++ [.subscribed id name kinds reactions]) =
      standing kind history ++ List.replicate (kinds.count kind) { id, listener := name } := by
  rw [standing_append]
  simp [standing, Moment.made, Moment.removes]

/-- What is removed goes, and the others stay in their order. -/
theorem standing_unsubscribed (id : Nat) :
    standing kind (history ++ [.unsubscribed id]) =
      (standing kind history).filter fun registration => registration.id != id := by
  rw [standing_append]
  simp only [standing, Moment.made, Moment.removes, List.filter_nil, List.append_nil,
    List.any_cons, List.any_nil, Bool.or_false]
  exact List.filter_congr fun registration _ => by rw [bne, Bool.beq_comm]

theorem standing_delivered (id : Nat) (event : Event) :
    standing kind (history ++ [.delivered id event]) = standing kind history := by
  rw [standing_append]
  simp [standing, Moment.made, Moment.removes]

/-- What stands was once subscribed. -/
theorem exists_of_mem_standing {registration : Registration String}
    (stands : registration ∈ standing kind history) :
    ∃ moment ∈ history, moment.id = registration.id := by
  induction history with
  | nil => cases stands
  | cons first rest ih =>
    rcases List.mem_append.mp stands with made | later
    · refine ⟨first, List.mem_cons_self, ?_⟩
      cases first with
      | subscribed id name kinds reactions =>
        rw [List.eq_of_mem_replicate (List.mem_filter.mp made).1]
        rfl
      | _ => cases (List.mem_filter.mp made).1
    · obtain ⟨moment, member, same⟩ := ih later
      exact ⟨moment, List.mem_cons_of_mem _ member, same⟩

/-! ### Numbered histories -/

namespace Numbered

theorem subscribed (numbered : Numbered history) (name : String) (kinds : List Event.Kind)
    (reactions : List (List Act)) :
    Numbered (history ++ [.subscribed (after history).next name kinds reactions]) :=
  EachAfter.concat numbered rfl

theorem unsubscribed (numbered : Numbered history) {id : Nat} (known : id < (after history).next) :
    Numbered (history ++ [.unsubscribed id]) :=
  EachAfter.concat numbered known

theorem delivered (numbered : Numbered history) {id : Nat} (event : Event)
    (known : id < (after history).next) : Numbered (history ++ [.delivered id event]) :=
  EachAfter.concat numbered known

/-- Every identity that occurs has been given out. -/
theorem lt_next (numbered : Numbered history) (member : moment ∈ history) :
    moment.id < (after history).next := by
  induction history using List.reverseRecOn with
  | nil => cases member
  | append_singleton history last ih =>
    have given := numbered.last
    rw [after_concat]
    rcases List.mem_append.mp member with old | new
    · exact Nat.lt_of_lt_of_le (ih numbered.init old) (next_le_on _ last)
    · rw [List.mem_singleton.mp new]
      cases last with
      | subscribed id name kinds reactions => exact Nat.lt_succ_of_le (Nat.le_of_eq given)
      | _ => exact given

theorem lt_next_of_mem_standing (numbered : Numbered history) {registration : Registration String}
    (stands : registration ∈ standing kind history) : registration.id < (after history).next := by
  obtain ⟨moment, member, same⟩ := exists_of_mem_standing stands
  rw [← same]
  exact numbered.lt_next member

theorem lt_next_of_boundTo (numbered : Numbered history) {name : String} {id : Nat}
    (bound : boundTo name history = some id) : id < (after history).next := by
  obtain ⟨moment, member, names⟩ := List.exists_of_findSome?_eq_some bound
  have about : moment.id = id := by
    cases moment with
    | subscribed other called kinds reactions =>
      rw [Moment.named?] at names
      split at names
      · exact Option.some.inj names
      · cases names
    | _ => cases names
  rw [← about]
  exact numbered.lt_next (List.mem_reverse.mp member)

end Numbered

/-- **After any history the list of a kind holds the registrations that stand, in their order.** -/
theorem registrations_after (numbered : Numbered history) (kind : Event.Kind) :
    (after history).registrations kind = standing kind history := by
  induction history using List.reverseRecOn with
  | nil => rfl
  | append_singleton history last ih =>
    have before := ih numbered.init
    rw [after_concat]
    cases last with
    | subscribed id name kinds reactions =>
      have given : id = (after history).next := numbered.last
      rw [standing_subscribed, ← before, given]
      rfl
    | unsubscribed id =>
      rw [standing_unsubscribed, ← before]
      rfl
    | delivered id event =>
      rw [standing_delivered, ← before]
      rfl

/-- **An unsubscription tells whether a registration of the identity stood for some kind.** -/
theorem unsubscribe_iff (numbered : Numbered history) (id : Nat) :
    ((after history).unsubscribe id).1 = true ↔
      ∃ kind, ∃ registration ∈ standing kind history, registration.id = id := by
  have told : ((after history).unsubscribe id).1 = true ↔
      ∃ kind ∈ Event.Kind.all, ∃ registration ∈ (after history).registrations kind,
        registration.id = id := by
    simp [unsubscribe, isRegistered, List.any_eq_true]
  rw [told]
  constructor
  · rintro ⟨kind, -, stands⟩
    rw [registrations_after numbered] at stands
    exact ⟨kind, stands⟩
  · rintro ⟨kind, stands⟩
    rw [← registrations_after numbered] at stands
    exact ⟨kind, kind.mem_all, stands⟩

/-! ### Names, and what listeners brought along -/

theorem boundTo_subscribed (name other : String) (id : Nat) (kinds : List Event.Kind)
    (reactions : List (List Act)) :
    boundTo other (history ++ [.subscribed id name kinds reactions]) =
      if other = name then some id else boundTo other history := by
  rw [boundTo, List.reverse_append, List.reverse_singleton, List.singleton_append,
    List.findSome?_cons, Moment.named?]
  by_cases same : other = name
  · rw [if_pos same.symm, if_pos same]
  · rw [if_neg (Ne.symm same), if_neg same, boundTo]

theorem boundTo_other (other : String) (unnamed : moment.named? other = none) :
    boundTo other (history ++ [moment]) = boundTo other history := by
  rw [boundTo, List.reverse_append, List.reverse_singleton, List.singleton_append,
    List.findSome?_cons, unnamed, boundTo]

/-- A fresh identity has everything still to do. -/
theorem remaining_subscribed (numbered : Numbered history) (name : String)
    (kinds : List Event.Kind) (reactions : List (List Act)) (other : Nat) :
    remaining other (history ++ [.subscribed (after history).next name kinds reactions]) =
      if other = (after history).next then reactions else remaining other history := by
  have untouched : ∀ moment ∈ history, moment.id ≠ (after history).next :=
    fun moment member => Nat.ne_of_lt (numbered.lt_next member)
  rw [remaining, List.findSome?_append, List.countP_append, remaining]
  by_cases same : other = (after history).next
  · have unbrought : history.findSome? (Moment.brought? (after history).next) = none := by
      rw [List.findSome?_eq_none_iff]
      intro moment member
      cases moment with
      | subscribed id called _ _ => exact if_neg (untouched _ member)
      | _ => rfl
    have undelivered : history.countP (Moment.delivers (after history).next) = 0 := by
      rw [List.countP_eq_zero]
      intro moment member
      cases moment with
      | delivered id event => simpa [Moment.delivers, Moment.id] using untouched _ member
      | _ => exact Bool.false_ne_true
    simp [same, unbrought, undelivered, Moment.brought?, Moment.delivers]
  · have others : (Moment.subscribed (after history).next name kinds reactions).brought? other =
        none := if_neg (Ne.symm same)
    simp [others, if_neg same, Moment.delivers]

theorem remaining_unsubscribed (id other : Nat) :
    remaining other (history ++ [.unsubscribed id]) = remaining other history := by
  simp [remaining, List.findSome?_append, Moment.brought?, Moment.delivers]

/-- **At a delivery a listener does the first thing that it has still to do.** -/
theorem remaining_delivered (id other : Nat) (event : Event) :
    remaining other (history ++ [.delivered id event]) =
      if other = id then (remaining id history).tail else remaining other history := by
  by_cases same : other = id
  · simp [remaining, same, List.findSome?_append, Moment.brought?, Moment.delivers]
  · have others : (Moment.delivered id event).delivers other = false :=
      beq_false_of_ne (Ne.symm same)
    simp [remaining, List.findSome?_append, Moment.brought?, others, if_neg same]

end TimedQuiz.Bus
