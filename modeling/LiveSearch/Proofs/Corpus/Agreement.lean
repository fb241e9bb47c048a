import LiveSearch.Proofs.Corpus.Edits

/-!
# Store, index and announcements stay in step

Three things know what the items are: the store, the index, and whoever has listened to the
announcements from the beginning. Whatever has been done to the corpus, as soon as it is done the
three **agree** (`Corpus.Agrees`), and every edit announces what it has done in one batch, or has
done nothing and announces nothing (`Corpus.Announces`).

All of this follows from one invariant: the three are in step with the map that the announcements
amount to (`Corpus.Followed`). An edit is some writes that are announced together, and writes keep
everything in step.
-/

namespace LiveSearch

namespace Corpus

variable {c c' : Corpus} {id : Nat}

/-- **Store, index and announcements agree.** -/
structure Agrees (c : Corpus) (id : Nat) : Prop where
  /-- The stored items are those that can be read. -/
  stored : ∀ item, item ∈ c.store.stored ↔ c.store.get item.ref = .ok (some item)
  /-- No two of them have the same reference. -/
  distinct : (c.store.stored.map (·.ref)).Nodup
  /-- The searchable documents are those of the stored items, one for each. -/
  documents : c.index.documents.Perm (c.store.stored.map Document.ofItem)
  /-- The index counts as many documents as the store counts items. -/
  count : c.index.count = c.store.count
  /-- What was announced amounts to what is stored. -/
  told : ∀ ref, c.store.get ref = .ok (Event.recordAll (c.bus.queue id).flatten ref)

/-- **What an edit announces** to a subscription, with the result that it gives. -/
inductive Announces (id : Nat) (before : Corpus) : Corpus → Except Failure Nat → Prop where
  /-- Items were stored, or were there and have been removed: there is one more batch, with one
  event for each of them. -/
  | batch {after : Corpus} {n : Nat} (events : List Event) (hcount : events.length = n + 1)
      (hqueue : after.bus.queue id = before.bus.queue id ++ [events])
      (hnews : ∀ e ∈ events,
        (∃ item, e = Event.updated item ∧ after.store.contains item.ref = true) ∨
          ∃ ref, e = Event.deleted ref ∧ before.store.contains ref = true ∧
            after.store.contains ref = false) :
      Announces id before after (.ok (n + 1))
  /-- Nothing was stored or removed. -/
  | nothing {after : Corpus} (hqueue : after.bus.queue id = before.bus.queue id)
      (hstore : after.store = before.store) : Announces id before after (.ok 0)
  /-- The edit has failed, and nothing was done. -/
  | failed (failure : Failure) : Announces id before before (.error failure)

/-! ### Following a corpus -/

/-- **A subscription has followed the corpus** from the beginning. -/
structure Followed (c : Corpus) (id : Nat) : Prop where
  /-- The subscription is there. -/
  listens : c.bus.Listens id
  /-- Nothing is left to commit. -/
  pending : c.index.pending = []
  /-- Everything is in step with what was announced. -/
  inStep : InStep (Event.recordAll (c.bus.queue id).flatten) c.store c.index.documents

namespace Followed

theorem agrees (h : c.Followed id) : c.Agrees id := by
  refine ⟨fun item => ?_, h.inStep.nodup_refs_stored, h.inStep.perm_documents,
    h.inStep.length_documents, h.inStep.get⟩
  rw [h.inStep.mem_stored, h.inStep.get, Except.ok.injEq]

/-- Writes that are announced together keep everything in step. -/
theorem carried {writes : List Write} (h : c.Followed id) (hc : Carried c c' writes) :
    c'.Followed id := by
  refine ⟨?_, hc.pending, ?_⟩
  · rw [hc.bus]
    exact h.listens.publish .news _
  · rw [hc.bus, Bus.flatten_queue_publish h.listens, hc.store, hc.documents, Event.recordAll,
      List.foldl_append]
    exact h.inStep.writes writes

/-- **An edit keeps everything in step.** -/
theorem edit (h : c.Followed id) (e : Edit) : (c.perform e.change).1.Followed id := by
  rcases carried_edit h.pending e with ⟨failure, heq⟩ | ⟨writes, -, hc, -⟩
  · rw [heq]
    exact h
  · exact h.carried hc

/-- What the writes of an edit make known. -/
theorem news_of_carried {writes : List Write} (hu : Uniform writes) (hc : Carried c c' writes)
    {e : Event} (he : e ∈ Write.allNews c.store writes) :
    (∃ item, e = Event.updated item ∧ c'.store.contains item.ref = true) ∨
      ∃ ref, e = Event.deleted ref ∧ c.store.contains ref = true ∧
        c'.store.contains ref = false := by
  rw [hc.store]
  cases hu with
  | puts items =>
    rw [Write.allNews_puts] at he
    obtain ⟨item, hmem, rfl⟩ := List.mem_map.mp he
    rw [Write.allToStore_puts]
    exact Or.inl ⟨item, rfl, Store.contains_putAll.mpr (Or.inl ⟨item, hmem, rfl⟩)⟩
  | removes refs =>
    obtain ⟨ref, hmem, rfl, hin⟩ := Write.mem_allNews_removes he
    refine Or.inr ⟨ref, rfl, hin, ?_⟩
    rw [← Bool.not_eq_true, Write.contains_allToStore_removes]
    exact fun hstill => hstill.1 hmem

/-- **What an edit announces** is what it has done. -/
theorem announces (h : c.Followed id) (e : Edit) :
    Announces id c (c.perform e.change).1 (c.perform e.change).2 := by
  rcases carried_edit h.pending e with ⟨failure, heq⟩ | ⟨writes, hu, hc, hresult⟩
  · rw [heq]
    exact .failed failure
  have hqueue := Bus.queue_publish h.listens (Write.allNews c.store writes)
  rw [← hc.bus] at hqueue
  rw [hresult]
  cases hnews : Write.allNews c.store writes with
  | nil =>
    rw [hnews, List.isEmpty_nil, if_pos rfl, List.append_nil] at hqueue
    refine .nothing hqueue ?_
    rw [hc.store, Write.allToStore_of_allNews_nil hnews]
  | cons first rest =>
    rw [hnews, List.isEmpty_cons, if_neg Bool.false_ne_true] at hqueue
    rw [← hnews] at hqueue
    refine .batch (Write.allNews c.store writes) (by rw [hnews, List.length_cons]) hqueue ?_
    exact fun e he => news_of_carried hu hc he

end Followed

/-! ### From the beginning -/

/-- The corpus after some edits, one after the other. -/
def edited (c : Corpus) (edits : List Edit) : Corpus :=
  edits.foldl (fun c e => (c.perform e.change).1) c

/-- A subscription that was there before anything was done follows the corpus. -/
theorem followed_edited {bus : Bus} (hlistens : bus.Listens id) (hquiet : bus.queue id = [])
    (edits : List Edit) : (edited { bus } edits).Followed id := by
  induction edits using List.reverseRecOn with
  | nil =>
    refine ⟨hlistens, rfl, ?_⟩
    show InStep (Event.recordAll (bus.queue id).flatten) _ _
    rw [hquiet]
    exact InStep.empty
  | append_singleton edits e ih =>
    have hlast : edited { bus } (edits ++ [e]) =
        ((edited { bus } edits).perform e.change).1 := by
      rw [edited, List.foldl_append]
      rfl
    rw [hlast]
    exact ih.edit e

/-- **Store, index and announcements stay in step.** Let somebody listen to the bus of a new corpus,
and let items be added, updated, moved to a state and deleted, in any order, with any repetitions
and whether or not it succeeds. Then the store, the index and what was announced agree; and whatever
is done next announces one batch with what it has stored or removed, or nothing if that is nothing,
and changes nothing if it fails. -/
theorem agrees_edited (bus : Bus) (id : Nat) (hlistens : bus.Listens id)
    (hquiet : bus.queue id = []) (edits : List Edit) :
    (edited { bus } edits).Agrees id ∧
      ∀ e : Edit, Announces id (edited { bus } edits)
        ((edited { bus } edits).perform e.change).1
        ((edited { bus } edits).perform e.change).2 := by
  have h := followed_edited hlistens hquiet edits
  exact ⟨h.agrees, h.announces⟩

/-- Two versions of one item that are added together, and a reference that is deleted and was never
there: one item is stored and found, in its second version, and one batch has been announced. -/
theorem agrees_edited_of_repetition :
    let bus := (Bus.subscribe {} .news).1
    let old : Item :=
      { ref := ⟨1⟩, feed := "f", guid := "a", title := "A", state := .unread, received := 5 }
    let new : Item := { old with title := "B" }
    let c := edited { bus } [.add [old, new], .delete [⟨2⟩]]
    (bus.Listens 0 ∧ bus.queue 0 = []) ∧ c.Agrees 0 ∧ c.index.count = 1 ∧
      c.store.get ⟨1⟩ = .ok (some new) ∧
      c.bus.queue 0 = [[Event.updated old, Event.updated new]] ∧
      Announces 0 c (c.perform (Edit.delete [⟨1⟩, ⟨1⟩]).change).1 (.ok 1) := by
  intro bus old new c
  have hlistens : bus.Listens 0 := Bus.listens_subscribe Bus.numbered_empty
  have hquiet : bus.queue 0 = [] := Bus.queue_subscribe Bus.numbered_empty
  obtain ⟨hagrees, hnext⟩ := agrees_edited bus 0 hlistens hquiet [.add [old, new], .delete [⟨2⟩]]
  have hget : c.store.get ⟨1⟩ = .ok (some new) := hagrees.told ⟨1⟩
  exact ⟨⟨hlistens, hquiet⟩, hagrees, hagrees.count, hget, rfl, hnext (.delete [⟨1⟩, ⟨1⟩])⟩

end Corpus

end LiveSearch
