import LiveSearch.Proofs.Condition.RoundTrip
import LiveSearch.Proofs.Corpus.LastWrite
import LiveSearch.Proofs.Mutation.RoundTrip

/-!
# What a store holds

A store is read and written as a map from references to items, though it keeps texts. The texts that
it keeps stand for the items that were given to it, so **the store gives back what was last put
under a reference** (`Store.gives_back`), whether it was put alone or in a batch, unless it has been
removed since. The same goes for the texts in which events and conditions are exchanged.
-/

namespace LiveSearch

namespace Store

/-- **What is done to a store.** -/
inductive Act where
  /-- An item is put under its reference. -/
  | put (item : Item)
  /-- The texts of some items are put under their references, in one transaction. -/
  | putBatch (items : List Item)
  /-- A reference is removed. -/
  | remove (ref : Reference)
  /-- The store is closed and opened again. -/
  | reopen

/-- **The store after an act**, with the answer to a removal: was there something to remove? Every
act is a transaction of its own, so there is nothing left that closing the store could lose. -/
def act (s : Store) : Act → Store × Option Bool
  | .put item => (s.put item, none)
  | .putBatch items => (s.putTexts (items.map fun item => (item.ref, item.encode)), none)
  | .remove ref => (s.remove ref, some (s.contains ref))
  | .reopen => (s, none)

/-- A new store after some acts. -/
def acted (acts : List Act) : Store :=
  acts.foldl (fun s a => (s.act a).1) {}

/-- What an act writes. -/
def Act.writes : Act → List Write
  | .put item => [.put item]
  | .putBatch items => items.map .put
  | .remove ref => [.remove ref]
  | .reopen => []

/-- **What some acts leave** under a reference: the item that was last put there, unless the
reference has been removed since. -/
def held (acts : List Act) (ref : Reference) : Option Item :=
  Write.leave (acts.flatMap Act.writes) ref

/-! ### Acts are writes -/

/-- The texts of items are written as the items are. -/
theorem putTexts_encode (s : Store) (items : List Item) :
    s.putTexts (items.map fun item => (item.ref, item.encode)) = s.putAll items := by
  rw [putTexts, List.foldl_map]
  rfl

theorem act_eq_allToStore (s : Store) (a : Act) : (s.act a).1 = Write.allToStore s a.writes := by
  cases a with
  | put item => rfl
  | putBatch items => rw [act, putTexts_encode, Act.writes, Write.allToStore_puts]
  | remove ref => rfl
  | reopen => rfl

/-- **A store after some acts** is what their writes make of it. -/
theorem acted_eq_allToStore (acts : List Act) :
    acted acts = Write.allToStore {} (acts.flatMap Act.writes) := by
  induction acts using List.reverseRecOn with
  | nil => rfl
  | append_singleton acts a ih =>
    have hlast : acted (acts ++ [a]) = ((acted acts).act a).1 := by
      rw [acted, List.foldl_append]
      rfl
    rw [hlast, act_eq_allToStore, ih, List.flatMap_append, List.flatMap_singleton,
      Write.allToStore_append]

/-! ### What is held -/

theorem get_acted (acts : List Act) (ref : Reference) :
    (acted acts).get ref = .ok (held acts ref) := by
  rw [acted_eq_allToStore, Write.get_allToStore, held, Write.leave]
  cases Write.last? (acts.flatMap Act.writes) ref <;> rfl

theorem contains_acted (acts : List Act) (ref : Reference) :
    (acted acts).contains ref = (held acts ref).isSome := by
  rw [acted_eq_allToStore, Write.contains_allToStore, held, Write.leave]
  cases Write.last? (acts.flatMap Act.writes) ref <;> rfl

/-- The keys of a store are the references where something is held. -/
theorem mem_keys_acted (acts : List Act) (ref : Reference) :
    ref ∈ (acted acts).items.keys ↔ (held acts ref).isSome = true := by
  rw [← contains_acted, contains, Table.contains, List.any_eq_true, Table.keys, List.mem_map]
  simp only [decide_eq_true_iff]

/-- **The store gives back what was put into it.** An item, an event and a condition are read back
from their texts. So let items be put, alone and in batches, and references be removed, and let the
store be closed and opened again, in any order. Then under each reference there is the item that was
last put there, if it has not been removed since; removing the reference tells whether there is one;
and the number of items is the number of the references that have one. -/
theorem gives_back :
    (∀ item : Item, Item.decode? item.encode = some item) ∧
    (∀ e : Event, Event.decode? e.encode = some e) ∧
    (∀ c : Condition, Condition.decode? c.encode = some c) ∧
    ∀ acts : List Act,
      (∀ ref, (acted acts).get ref = .ok (held acts ref)) ∧
      (∀ ref, ((acted acts).act (.remove ref)).2 = some (held acts ref).isSome) ∧
      ∃ refs : List Reference, refs.Nodup ∧ (∀ ref, ref ∈ refs ↔ (held acts ref).isSome = true) ∧
        (acted acts).count = refs.length := by
  refine ⟨Item.decode?_encode, Event.decode?_encode, Condition.decode?_encode, fun acts => ?_⟩
  refine ⟨get_acted acts, fun ref => congrArg some (contains_acted acts ref), ?_⟩
  have hascending : (acted acts).items.Ascending := by
    rw [acted_eq_allToStore]
    exact Write.ascending_allToStore InStep.empty.ascending _
  refine ⟨(acted acts).items.keys, hascending.nodup_keys, mem_keys_acted acts, ?_⟩
  rw [Table.keys, List.length_map]
  rfl

/-- An item that was put in a batch, removed, and put again in another version. -/
example :
    let old : Item :=
      { ref := ⟨1⟩, feed := "f", guid := "a", title := "A", state := .unread, received := 5 }
    let new : Item := { old with title := "B" }
    held [.putBatch [old], .remove ⟨1⟩, .reopen, .put new, .remove ⟨2⟩] ⟨1⟩ = some new := rfl

end Store

end LiveSearch
