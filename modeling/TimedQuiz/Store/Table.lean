/-
**Tables.**

A table holds at most one row per key. A new key goes to the end; writing under a key that is there
replaces the row in its place.
-/

namespace TimedQuiz.Store

/-- Rows under distinct keys, in the order in which the keys came in. -/
structure Table (κ α : Type) where
  rows : List (κ × α) := []
  distinct : (rows.map Prod.fst).Nodup := by decide

namespace Table

variable {κ α : Type} [DecidableEq κ]

/-- The table without rows. -/
def empty : Table κ α := { rows := [], distinct := List.nodup_nil }

/-- The row under a key. -/
def get? (table : Table κ α) (key : κ) : Option α := table.rows.lookup key

/-- Replaces the row under a key wherever it stands. -/
def replaceRows (rows : List (κ × α)) (key : κ) (value : α) : List (κ × α) :=
  rows.map fun row => if row.1 = key then (key, value) else row

/-- Replacing a row keeps the keys. -/
theorem keys_replaceRows (rows : List (κ × α)) (key : κ) (value : α) :
    (replaceRows rows key value).map Prod.fst = rows.map Prod.fst := by
  induction rows with
  | nil => rfl
  | cons row rest ih =>
    by_cases same : row.1 = key <;> simp_all [replaceRows]

/-- Writes a row under a key. -/
def insert (table : Table κ α) (key : κ) (value : α) : Table κ α :=
  if known : key ∈ table.rows.map Prod.fst then
    { rows := replaceRows table.rows key value
      distinct := by rw [keys_replaceRows]; exact table.distinct }
  else
    { rows := table.rows ++ [(key, value)]
      distinct := by
        rw [List.map_append, List.nodup_append]
        refine ⟨table.distinct, by simp, ?_⟩
        intro a inside b last same
        have isKey : b = key := by simpa using last
        exact known (isKey ▸ same ▸ inside) }

/-- Changes the row under a key, if there is one. -/
def modify (table : Table κ α) (key : κ) (change : α → α) : Table κ α :=
  match table.get? key with
  | some value => table.insert key (change value)
  | none => table

/-- The rows without their keys. -/
def values (table : Table κ α) : List α := table.rows.map Prod.snd

/-- The number of rows. -/
def size (table : Table κ α) : Nat := table.rows.length

end Table
end TimedQuiz.Store
