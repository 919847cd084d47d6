/-
**What can go wrong with a request.**

A request can fail for a reason of the service, which is then turned into a refusal: a status and a
text for the client. The reasons are finer than the refusals.
-/

import TimedQuiz.Json
import TimedQuiz.Phase
import TimedQuiz.Store.Storage

namespace TimedQuiz

/-- Why a service cannot do what is asked. -/
inductive Trouble
  /-- The store could not serve a call. -/
  | unavailable (failure : Store.Failure)
  /-- No store is installed. -/
  | degraded
  | unauthorized (message : String)
  | invalidInput (message : String)
  /-- The quiz is in a phase that does not admit what is asked. -/
  | invalidState (message : String)
  | conflict (message : String)
  | notFound (message : String)
  /-- The coordinator no longer answers. -/
  | stopped
  deriving DecidableEq, Repr

namespace Trouble

/-- The trouble of a refused trigger. -/
def ofInvalidTransition (refusal : Phase.InvalidTransition) : Trouble :=
  .invalidState refusal.message

/-- The text of a trouble. -/
def message : Trouble → String
  | .unavailable _ => "storage unavailable"
  | .degraded => "storage unavailable (degraded mode)"
  | .unauthorized message => "unauthorized: " ++ message
  | .invalidInput message => "invalid input: " ++ message
  | .invalidState message => "invalid state: " ++ message
  | .conflict message => "conflict: " ++ message
  | .notFound message => "not found: " ++ message
  | .stopped => "session coordinator stopped"

/-- The text of what lies behind a trouble, where something does. -/
def sourceMessage : Trouble → Option String
  | .unavailable failure => some failure.text
  | _ => none

end Trouble

/-- How a request is refused. -/
inductive Refusal
  | badRequest (message : String)
  | unauthorized (message : String)
  | notFound (message : String)
  | conflict (message : String)
  | serviceUnavailable (message : String)
  | internal (message : String)
  deriving DecidableEq, Repr

namespace Refusal

/-- The refusal for a trouble. -/
def ofTrouble : Trouble → Refusal
  | .unavailable failure => .serviceUnavailable failure.text
  | .degraded => .serviceUnavailable "degraded mode"
  | .unauthorized message => .unauthorized message
  | .invalidInput message => .badRequest message
  | .invalidState message => .conflict message
  | .conflict message => .conflict message
  | .notFound message => .notFound message
  | .stopped => .internal "session coordinator stopped"

/-- The status of a refusal. -/
def status : Refusal → Nat
  | .badRequest _ => 400
  | .unauthorized _ => 401
  | .notFound _ => 404
  | .conflict _ => 409
  | .serviceUnavailable _ => 503
  | .internal _ => 500

/-- The text of a refusal. -/
def message : Refusal → String
  | .badRequest message => "bad request: " ++ message
  | .unauthorized message => "unauthorized: " ++ message
  | .notFound message => "not found: " ++ message
  | .conflict message => "conflict: " ++ message
  | .serviceUnavailable message => "service unavailable: " ++ message
  | .internal message => "internal error: " ++ message

/-- What the client receives. -/
def toJson (refusal : Refusal) : Json := .object [("message", .text refusal.message)]

end Refusal
end TimedQuiz
