/-! # Tables

A table gives some keys a value. It is its own view: `get?_insert` and `get?_erase` say all there is to
say about a changed table.
-/

namespace Courier

/-- A finite or infinite map from keys to values. -/
structure Table (κ α : Type) where
  get? : κ → Option α

namespace Table

variable {κ α : Type} [DecidableEq κ]

def empty : Table κ α := ⟨fun _ => none⟩

def insert (table : Table κ α) (key : κ) (value : α) : Table κ α :=
  ⟨fun other => if other = key then some value else table.get? other⟩

def erase (table : Table κ α) (key : κ) : Table κ α :=
  ⟨fun other => if other = key then none else table.get? other⟩

/-- Keeps the keys that pass the test. -/
def filter (table : Table κ α) (keep : κ → Bool) : Table κ α :=
  ⟨fun key => if keep key then table.get? key else none⟩

def ofList (entries : List (κ × α)) : Table κ α :=
  entries.foldl (fun table (key, value) => table.insert key value) empty

omit [DecidableEq κ] in
@[ext]
theorem ext {left right : Table κ α} (h : ∀ key, left.get? key = right.get? key) : left = right := by
  cases left
  cases right
  simp only [mk.injEq]
  exact funext h

omit [DecidableEq κ] in
@[simp]
theorem get?_empty (key : κ) : (empty : Table κ α).get? key = none := rfl

theorem get?_insert (table : Table κ α) (key other : κ) (value : α) :
    (table.insert key value).get? other = if other = key then some value else table.get? other := rfl

theorem get?_erase (table : Table κ α) (key other : κ) :
    (table.erase key).get? other = if other = key then none else table.get? other := rfl

@[simp]
theorem get?_insert_self (table : Table κ α) (key : κ) (value : α) :
    (table.insert key value).get? key = some value := by
  simp [get?_insert]

@[simp]
theorem get?_erase_self (table : Table κ α) (key : κ) : (table.erase key).get? key = none := by
  simp [get?_erase]

theorem get?_insert_of_ne (table : Table κ α) {key other : κ} (value : α) (h : other ≠ key) :
    (table.insert key value).get? other = table.get? other := by
  simp [get?_insert, h]

theorem get?_erase_of_ne (table : Table κ α) {key other : κ} (h : other ≠ key) :
    (table.erase key).get? other = table.get? other := by
  simp [get?_erase, h]

@[simp]
theorem insert_erase (table : Table κ α) (key : κ) (value : α) :
    (table.erase key).insert key value = table.insert key value := by
  ext other
  by_cases h : other = key <;> simp [get?_insert, get?_erase, h]

end Table

end Courier
