/-
**Services.**

A service is a computation that works on the storage and may run into trouble. What it wrote before
the trouble stays written.
-/

import TimedQuiz.Trouble

namespace TimedQuiz

/-- A computation on the storage that may run into trouble. -/
abbrev Service (α : Type) := ExceptT Trouble (StateM Store.Storage) α

namespace Service

/-- The store that is installed now. -/
def requireStore : Service Store.Faults := do
  match (← get).installed with
  | some faults => return faults
  | none => throw .degraded

/-- A call of an installed store; one that cannot be served is trouble. -/
def call {α : Type} (request : Store.Memory → Except Store.Failure α × Store.Memory) :
    Service α := do
  let storage ← get
  let (answer, memory) := request storage.memory
  set { storage with memory }
  match answer with
  | .ok value => return value
  | .error failure => throw (.unavailable failure)

/-- A call of an installed store whose failure does not matter. -/
def attempt (request : Store.Memory → Except Store.Failure Unit × Store.Memory) : Service Unit :=
  modify fun storage => { storage with memory := (request storage.memory).2 }

/-- Runs a service on a storage. -/
def on {α : Type} (service : Service α) (storage : Store.Storage) :
    Except Trouble α × Store.Storage :=
  StateT.run (ExceptT.run service) storage

end Service
end TimedQuiz
