/-!
# Ordered tables

A **table** keeps one value for each key, in ascending order of the keys.

* `Table.insert`, `Table.erase` – one key is written or removed.
* `Table.get?` – the value of a key.
-/

namespace LiveSearch

/-- One value for each key, in ascending order of the keys. -/
structure Table (κ : Type) (α : Type) where
  /-- The keys with their values. -/
  entries : List (κ × α) := []
deriving DecidableEq, Inhabited

namespace Table

variable {κ α : Type}

/-- The entries with a value written under a key. -/
def insertInto [Ord κ] (key : κ) (value : α) : List (κ × α) → List (κ × α)
  | [] => [(key, value)]
  | (k, v) :: rest =>
    match compare key k with
    | .lt => (key, value) :: (k, v) :: rest
    | .eq => (key, value) :: rest
    | .gt => (k, v) :: insertInto key value rest

/-- The table with a value written under a key. -/
def insert [Ord κ] (t : Table κ α) (key : κ) (value : α) : Table κ α :=
  ⟨insertInto key value t.entries⟩

/-- The table without a key. -/
def erase [DecidableEq κ] (t : Table κ α) (key : κ) : Table κ α :=
  ⟨t.entries.filter (·.1 ≠ key)⟩

/-- The value of a key. -/
def get? [DecidableEq κ] (t : Table κ α) (key : κ) : Option α :=
  (t.entries.find? (·.1 = key)).map (·.2)

/-- Is there a value for the key? -/
def contains [DecidableEq κ] (t : Table κ α) (key : κ) : Bool :=
  t.entries.any (·.1 = key)

/-- The keys, in ascending order. -/
def keys (t : Table κ α) : List κ :=
  t.entries.map (·.1)

/-- The number of keys. -/
def size (t : Table κ α) : Nat :=
  t.entries.length

end Table

end LiveSearch
