/-
**How services go, step by step.**

A service is taken apart into its calls: each is carried out on the storage that the ones before it
have left, up to the first trouble. A service whose calls only read leaves the storage as it is
(`Service.Reads`), as those of the leaderboard do.
-/

import TimedQuiz.Leaderboard

namespace TimedQuiz.Service

open Store

variable {α β : Type} {storage : Storage}

@[simp]
theorem mapError_ok {ε : Type} (change : ε → Trouble) (value : α) :
    (Except.ok value : Except ε α).mapError change = .ok value := rfl

@[simp]
theorem on_throw (trouble : Trouble) :
    (throw trouble : Service α).on storage = (.error trouble, storage) := rfl

@[simp]
theorem on_bind (first : Service α) (next : α → Service β) :
    (first >>= next).on storage =
      match first.on storage with
      | (.ok value, later) => (next value).on later
      | (.error trouble, later) => (.error trouble, later) := by
  simp only [on, bind, ExceptT.bind, ExceptT.run, ExceptT.mk, StateT.bind, StateT.run]
  rcases first storage with ⟨_ | _, later⟩ <;> rfl

@[simp]
theorem on_map (change : α → β) (service : Service α) :
    (change <$> service).on storage =
      ((service.on storage).1.map change, (service.on storage).2) := by
  rw [map_eq_pure_bind, on_bind]
  rcases service.on storage with ⟨_ | _, later⟩ <;> rfl

theorem on_requireStore {faults : Faults} (installed : storage.installed = some faults) :
    requireStore.on storage = (.ok faults, storage) := by
  obtain ⟨memory, found⟩ := storage
  obtain rfl : found = some faults := installed
  rfl

@[simp]
theorem on_get : (get : Service Storage).on storage = (.ok storage, storage) := rfl

@[simp]
theorem on_set (next : Storage) : (set next : Service PUnit).on storage = (.ok (), next) := rfl

/-- A call hands on the answer of the store, or its failure. -/
@[simp]
theorem on_call (request : Memory → Except Failure α × Memory) :
    (call request).on storage =
      ((request storage.memory).1.mapError .unavailable,
        { storage with memory := (request storage.memory).2 }) := by
  simp only [call, on_bind, on_get, on_set]
  rcases request storage.memory with ⟨_ | _, memory⟩ <;> rfl

@[simp]
theorem on_attempt (request : Memory → Except Failure Unit × Memory) :
    (attempt request).on storage =
      (.ok (), { storage with memory := (request storage.memory).2 }) := rfl

/-! ### Services that only read -/

/-- The service leaves the storage as it is. -/
def Reads (service : Service α) : Prop := ∀ storage, (service.on storage).2 = storage

namespace Reads

theorem pure (value : α) : Reads (Pure.pure value) := fun _ => rfl

theorem throw (trouble : Trouble) : Reads (MonadExcept.throw trouble : Service α) := fun _ => rfl

theorem bind {first : Service α} {next : α → Service β} (reads : Reads first)
    (later : ∀ value, Reads (next value)) : Reads (first >>= next) := by
  intro storage
  have same := reads storage
  rw [on_bind]
  generalize first.on storage = outcome at same ⊢
  rcases outcome with ⟨trouble | value, after⟩
  · exact same
  · exact (later value after).trans same

theorem requireStore : Reads Service.requireStore := by
  rintro ⟨memory, _ | faults⟩ <;> rfl

theorem call {request : Memory → Except Failure α × Memory}
    (same : ∀ memory, (request memory).2 = memory) : Reads (Service.call request) := by
  intro storage
  rw [on_call, same]

end Reads
end TimedQuiz.Service

/-! ### Calls of the store -/

namespace TimedQuiz.Store.Faults

variable {α : Type}

/-- A call that fails has no effect. -/
theorem call_of_failing {faults : Faults} {method : Method} (failing : method ∈ faults.failing)
    (act : Memory → α × Memory) (memory : Memory) :
    faults.call method act memory = (.error { message := method.name ++ " failed" }, memory) :=
  if_pos failing

/-- A call that does not fail is carried out. -/
theorem call_of_working {faults : Faults} {method : Method} (working : method ∉ faults.failing)
    (act : Memory → α × Memory) (memory : Memory) :
    faults.call method act memory = (.ok (act memory).1, (act memory).2) :=
  if_neg working

variable (method : Method) (memory : Memory)

theorem call_reads (faults : Faults) (look : Memory → α) :
    (faults.call method (fun current => (look current, current)) memory).2 = memory := by
  unfold call
  split <;> rfl

@[simp]
theorem call_healthy (act : Memory → α × Memory) :
    call {} method act memory = (.ok (act memory).1, (act memory).2) := rfl

@[simp]
theorem find_healthy (look : Memory → Option α) :
    find {} method look memory = (.ok (look memory), memory) := rfl

@[simp]
theorem write_healthy (change : Memory → Memory) :
    write {} method change memory = (.ok (), change memory) := rfl

end TimedQuiz.Store.Faults

/-! ### The leaderboard -/

namespace TimedQuiz.Leaderboard

open Service Store

theorem top_reads (limit : Nat) : Reads (top limit) := by
  refine .bind .requireStore fun faults => .bind (.call ?_) fun records => ?_
  · exact fun memory => faults.call_reads _ memory _
  · exact .bind (.call fun memory => faults.call_reads _ memory _) fun count => .pure _

theorem standing_reads (username : String) : Reads (standing username) := by
  unfold standing
  split
  · exact .throw _
  · refine .bind .requireStore fun faults => .bind (.call ?_) fun record => ?_
    · exact fun memory => faults.call_reads _ memory _
    · cases record with
      | none => exact .throw _
      | some record =>
        refine .bind (.call fun memory => faults.call_reads _ memory _) fun rank => ?_
        cases rank with
        | none => exact .throw _
        | some rank =>
          exact .bind (.call fun memory => faults.call_reads _ memory _) fun _ => .pure _

/-- The first places of the leaderboard on a store without faults. -/
theorem top_on {storage : Storage} (healthy : storage.installed = some {}) (limit : Nat) :
    (top limit).on storage =
      (.ok {
        entries := number (storage.memory.topPlayers limit)
        totalPlayers := storage.memory.totalPlayers },
      storage) := by
  simp only [top, on_bind, on_requireStore healthy, Faults.topPlayers, Faults.totalPlayers, on_call,
    Faults.call_healthy, mapError_ok]
  rfl

end TimedQuiz.Leaderboard
