import LiveSearch.Bus
import LiveSearch.Index
import LiveSearch.Provider
import LiveSearch.Store

/-!
# The corpus

The **corpus** is the store, the index and the bus that announces changes. A change is written to
the store first, then to the index, and is announced last, so that a query issued in answer to an
announcement sees the change.

* `Change` – **a change that is under way**: what is left of it to do. Several changes can be under
  way in one corpus.
* `Change.step` – the next atomic step of a change: a lookup in the store, a transaction of the
  store, a commit of the index, an announcement.
* `Corpus.addItems`, `Corpus.updateItem`, `Corpus.setState`, `Corpus.delete` – the four changes,
  carried out without interruption.
-/

namespace LiveSearch

/-- The store, the index and the bus. -/
structure Corpus where
  store : Store := {}
  index : Index := {}
  bus : Bus := {}
deriving DecidableEq, Inhabited

/-- A **change** that is under way. -/
inductive Change where
  /-- The items of `refs` are still to be looked up; those of `found` are to move to the state. -/
  | lookUp (refs : List Reference) (state : State) (found : List Item)
  /-- The items are to be written. -/
  | write (items : List Item)
  /-- The items of `rest` are still to be removed from the store; those of `removed` were there.
  All of `refs` are to be removed from the index. -/
  | remove (rest refs removed : List Reference)
  /-- The store is written; the index is to follow. -/
  | index (operations : List IndexOperation) (events : List Event) (count : Nat)
  /-- Store and index are written; the events are to be announced. -/
  | announce (events : List Event) (count : Nat)
  /-- Nothing is left to do. -/
  | done (result : Except Failure Nat)

namespace Change

/-! ### The four changes -/

/-- Items are added, or replace the versions that are there. -/
def addItems (items : List Item) : Change :=
  if items.isEmpty then .done (.ok 0) else .write items

/-- Items move to a state. -/
def setState (refs : List Reference) (state : State) : Change :=
  .lookUp refs state []

/-- Items are deleted. -/
def delete (refs : List Reference) : Change :=
  if refs.isEmpty then .done (.ok 0) else .remove refs refs []

/-! ### Atomic steps -/

/-- The items to move to a state after one more has been looked up. -/
def collect (state : State) (item : Item) (found : List Item) : List Item :=
  if item.state = state then found else found ++ [{ item with state }]

/-- **The next step** of a change. -/
def step (c : Corpus) : Change → Corpus × Change
  | .lookUp [] _ found => (c, addItems found)
  | .lookUp (ref :: rest) state found =>
    match c.store.resolve ref with
    | .ok item => (c, .lookUp rest state (collect state item found))
    | .error e => (c, .done (.error e))
  | .write items =>
    ({ c with store := c.store.putAll items },
      .index (items.flatMap Index.replacement) (items.map Event.updated) items.length)
  | .remove [] refs removed =>
    (c, .index (refs.map .delete) (removed.map Event.deleted) removed.length)
  | .remove (ref :: rest) refs removed =>
    ({ c with store := c.store.remove ref },
      .remove rest refs (if c.store.contains ref then removed ++ [ref] else removed))
  | .index operations events count =>
    ({ c with index := (c.index.enqueueAll operations).commit }, .announce events count)
  | .announce events count => ({ c with bus := (c.bus.publish .news events).1 }, .done (.ok count))
  | .done result => (c, .done result)

/-- A bound on the number of steps that a change still takes. -/
def remaining : Change → Nat
  | .lookUp refs _ _ => refs.length + 4
  | .write _ => 3
  | .remove rest _ _ => rest.length + 3
  | .index _ _ _ => 2
  | .announce _ _ => 1
  | .done _ => 0

end Change

namespace Corpus

/-- Carries out `steps` steps of a change. -/
def advance : Nat → Corpus → Change → Corpus × Change
  | 0, c, change => (c, change)
  | steps + 1, c, change =>
    let (c, change) := change.step c
    advance steps c change

/-- The result of a change that is done. -/
def resultOf : Change → Except Failure Nat
  | .done result => result
  | _ => .ok 0

/-- Carries out a change without interruption. -/
def perform (c : Corpus) (change : Change) : Corpus × Except Failure Nat :=
  let (c, change) := advance change.remaining c change
  (c, resultOf change)

/-- Adds items, or replaces the versions that are there; counts them. -/
def addItems (c : Corpus) (items : List Item) : Corpus × Except Failure Nat :=
  c.perform (.addItems items)

/-- Adds one item, or replaces the version that is there. -/
def updateItem (c : Corpus) (item : Item) : Corpus × Except Failure Nat :=
  c.addItems [item]

/-- Moves items to a state; counts those that were in another one. Nothing happens if one of the
items cannot be looked up. -/
def setState (c : Corpus) (refs : List Reference) (state : State) :
    Corpus × Except Failure Nat :=
  c.perform (.setState refs state)

/-- Deletes items; counts those that were there. What is not in the store is removed from the index
all the same. -/
def delete (c : Corpus) (refs : List Reference) : Corpus × Except Failure Nat :=
  c.perform (.delete refs)

/-- What sessions need from the corpus. -/
def sources (c : Corpus) : Sources :=
  { provider := c.index.search, resolver := c.store.resolve }

/-- The corpus after it has been closed and opened again: what was not committed is gone, and so are
the subscriptions. -/
def reopen (c : Corpus) : Corpus :=
  { c with index := c.index.rollback, bus := {} }

end Corpus

end LiveSearch
