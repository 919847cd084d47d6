/-
**The phases of the quiz.**

One round is played at a time. The quiz is idle until the first round starts, runs while a round
is on, and is over once the round has been closed; closing takes two triggers, so that what is
announced in between sees a round that is no longer running and not yet over.
-/

namespace TimedQuiz

/-- Where the quiz stands between and during rounds. -/
inductive Phase
  | idle
  | running
  | ending
  | ended
  deriving DecidableEq, Repr

namespace Phase

/-- What moves the quiz from one phase to another. -/
inductive Trigger
  | start
  | beginEnd
  | finishEnd
  deriving DecidableEq, Repr

/-- A trigger met in a phase that does not admit it. -/
structure InvalidTransition where
  origin : Phase
  trigger : Trigger
  deriving DecidableEq, Repr

/-- The phase after a trigger: a round starts when none is on, and ends in two steps. -/
def apply : Phase → Trigger → Except InvalidTransition Phase
  | .idle, .start => .ok .running
  | .ended, .start => .ok .running
  | .running, .beginEnd => .ok .ending
  | .ending, .finishEnd => .ok .ended
  | origin, trigger => .error { origin, trigger }

/-- A start is admitted while no round is on, and then a round is on. -/
theorem of_apply_start {phase next : Phase} (applied : phase.apply .start = .ok next) :
    (phase = .idle ∨ phase = .ended) ∧ next = .running := by
  cases phase with
  | idle => exact ⟨Or.inl rfl, (Except.ok.inj applied).symm⟩
  | ended => exact ⟨Or.inr rfl, (Except.ok.inj applied).symm⟩
  | running => cases applied
  | ending => cases applied

/-- The phase after a trigger, unchanged when the trigger is not admitted. -/
def advance (phase : Phase) (trigger : Trigger) : Phase :=
  match phase.apply trigger with
  | .ok next => next
  | .error _ => phase

/-- The name of a phase in messages. -/
def title : Phase → String
  | .idle => "Idle"
  | .running => "Running"
  | .ending => "Ending"
  | .ended => "Ended"

/-- The name of a phase in answers to clients. -/
def name : Phase → String
  | .idle => "idle"
  | .running => "running"
  | .ending => "ending"
  | .ended => "ended"

/-- The name of a trigger in messages. -/
def Trigger.title : Trigger → String
  | .start => "Start"
  | .beginEnd => "BeginEnd"
  | .finishEnd => "FinishEnd"

/-- The text of a refused trigger. -/
def InvalidTransition.message (refusal : InvalidTransition) : String :=
  "invalid transition: " ++ refusal.trigger.title ++ " cannot be applied while in " ++
    refusal.origin.title

end Phase
end TimedQuiz
