import LiveSearch.Text.Blank

/-!
# The state of an item

An item is new, unread, updated or read, or it has left the reader's sight: hidden or deleted. Only
items in the first four states are found by a search.

* `State.isVisible` – the division.
* `State.code`, `State.ofCode?` – the number that the index keeps for a state.
* `State.parse?` – the reading of a name, in any case and with blanks around it.
-/

namespace LiveSearch

open Text

/-- The **state** of an item. -/
inductive State where
  | new
  | unread
  | updated
  | read
  | hidden
  | deleted
deriving DecidableEq, Inhabited

namespace State

/-- All states, in the order of their codes. -/
def all : List State :=
  [.new, .unread, .updated, .read, .hidden, .deleted]

/-- The states of the items that a search finds. -/
def visible : List State :=
  [.new, .unread, .updated, .read]

/-- Is an item in this state found by a search? -/
def isVisible : State → Bool
  | .hidden | .deleted => false
  | _ => true

/-- The number of a state. -/
def code : State → Nat
  | .new => 0
  | .unread => 1
  | .updated => 2
  | .read => 3
  | .hidden => 4
  | .deleted => 5

/-- The state with a number. -/
def ofCode? (code : Nat) : Option State :=
  all[code]?

/-- The name of a state. -/
def name : State → String
  | .new => "new"
  | .unread => "unread"
  | .updated => "updated"
  | .read => "read"
  | .hidden => "hidden"
  | .deleted => "deleted"

/-- The state with exactly this name. -/
def ofName? (name : String) : Option State :=
  all.find? (·.name = name)

/-- Reads a name with blanks around it, the letters of ASCII being taken in either case. -/
def parse? (s : String) : Option State :=
  ofName? (trim s).toLower

/-- The sentence for a text that names no state. -/
def unknownMessage (s : String) : String :=
  "unknown news state '" ++ s ++ "'"

end State

end LiveSearch
