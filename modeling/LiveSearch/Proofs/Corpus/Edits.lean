import LiveSearch.Proofs.Corpus.Grown
import LiveSearch.Proofs.Corpus.Writes

/-!
# What an edit comes to

An edit is carried out in many small steps. Nobody interferes, so what it comes to can be said in
one go: **an edit is some writes** (`Corpus.Carried`). They are made in the store, asked of the
index in the same order and committed together, and all their news is announced as one batch. Its
result is the number of the news, unless it fails; an edit that fails is no write at all
(`Corpus.carried_edit`).

What the writes of an edit are is seen from the edit: items that are added are put one by one
(`Corpus.carried_addItems`), items that move to a state are looked up first and then added
(`Corpus.perform_setState`), and what is deleted is removed (`Corpus.carried_delete`).
-/

namespace LiveSearch

namespace Corpus

variable {c : Corpus}

/-! ### Taking steps together -/

theorem advance_add (m n : Nat) (c : Corpus) (change : Change) :
    advance (m + n) c change = advance n (advance m c change).1 (advance m c change).2 := by
  induction m generalizing c change with
  | zero => rw [Nat.zero_add]; rfl
  | succ m ih => rw [Nat.succ_add, advance_succ, ih, advance_succ]

theorem advance_of_done (n : Nat) (c : Corpus) (result : Except Failure Nat) :
    advance n c (.done result) = (c, .done result) := by
  induction n with
  | zero => rfl
  | succ n ih =>
    rw [advance_succ]
    exact ih

/-- More steps than remain make no difference. -/
theorem advance_of_le {n : Nat} {change : Change} (h : change.remaining ≤ n) (c : Corpus) :
    advance n c change = advance change.remaining c change := by
  obtain ⟨result, hdone⟩ := advance_done change.remaining c change (Nat.le_refl _)
  obtain ⟨extra, rfl⟩ := Nat.exists_eq_add_of_le h
  rw [advance_add, hdone, advance_of_done]
  exact Prod.ext rfl hdone.symm

/-- **Carrying a change out** is taking its next step and carrying out what is left. -/
theorem perform_step (c : Corpus) (change : Change) :
    c.perform change = (change.step c).1.perform (change.step c).2 := by
  have hleft := remaining_step c change
  have hall : advance change.remaining c change =
      advance (change.step c).2.remaining (change.step c).1 (change.step c).2 := by
    rw [← advance_of_le (Nat.le_succ change.remaining), advance_succ]
    exact advance_of_le (Nat.le_trans hleft (Nat.sub_le _ _)) _
  rw [perform, hall]
  rfl

/-! ### The four changes in one go -/

/-- The items that are still to be looked up, in their new state, without those that are in it. -/
def moved (s : Store) (state : State) : List Reference → Except Failure (List Item)
  | [] => .ok []
  | ref :: rest =>
    match s.resolve ref with
    | .ok item => (moved s state rest).map fun later => Change.collect state item [] ++ later
    | .error e => .error e

theorem collect_append (state : State) (item : Item) (found : List Item) :
    Change.collect state item found = found ++ Change.collect state item [] := by
  rw [Change.collect, Change.collect]
  split
  · rw [List.append_nil]
  · rw [List.nil_append]

/-- **Looking up comes first**: if one lookup fails nothing is done, and otherwise what was found is
added. -/
theorem perform_lookUp (c : Corpus) (refs : List Reference) (state : State) (found : List Item) :
    c.perform (.lookUp refs state found) =
      match moved c.store state refs with
      | .ok items => c.perform (.addItems (found ++ items))
      | .error e => (c, .error e) := by
  induction refs generalizing found with
  | nil =>
    rw [perform_step, moved]
    show c.perform (.addItems found) = c.perform (.addItems (found ++ []))
    rw [List.append_nil]
  | cons ref rest ih =>
    rw [perform_step, Change.step, moved]
    cases c.store.resolve ref with
    | error e => rfl
    | ok item =>
      show c.perform (.lookUp rest state (Change.collect state item found)) = _
      rw [ih, collect_append]
      cases moved c.store state rest with
      | error e => rfl
      | ok later =>
        show c.perform (.addItems (found ++ Change.collect state item [] ++ later)) = _
        rw [List.append_assoc]
        rfl

/-- **Moving items to a state.** -/
theorem perform_setState (c : Corpus) (refs : List Reference) (state : State) :
    c.perform (.setState refs state) =
      match moved c.store state refs with
      | .ok items => c.perform (.addItems items)
      | .error e => (c, .error e) :=
  c.perform_lookUp refs state []

/-- **Removing comes first**, from the store, and then the index follows. -/
theorem perform_remove (c : Corpus) (rest refs removed : List Reference) :
    c.perform (.remove rest refs removed) =
      perform { c with store := Write.allToStore c.store (rest.map .remove) }
        (.index (refs.map .delete)
          (removed.map Event.deleted ++ Write.allNews c.store (rest.map .remove))
          (removed.length + (Write.allNews c.store (rest.map .remove)).length)) := by
  induction rest generalizing c removed with
  | nil =>
    rw [perform_step]
    simp only [List.map_nil, Write.allNews, List.append_nil, List.length_nil, Nat.add_zero]
    rfl
  | cons ref rest ih =>
    rw [perform_step]
    show perform { c with store := c.store.remove ref }
      (.remove rest refs (if c.store.contains ref then removed ++ [ref] else removed)) = _
    rw [ih, List.map_cons, Write.allToStore_cons, Write.allNews, Write.news, Write.toStore]
    -- whether there is something to remove decides what is announced, and nothing else
    split
    · rw [List.map_append, List.append_assoc, List.length_append, List.length_append,
        Nat.add_assoc]
      rfl
    · rw [List.nil_append]

/-! ### Edits as writes -/

/-- **What a corpus is after some writes** that are announced together. -/
structure Carried (c c' : Corpus) (writes : List Write) : Prop where
  /-- The writes are made in the store. -/
  store : c'.store = Write.allToStore c.store writes
  /-- They are asked of the index, in the same order. -/
  documents : c'.index.documents =
    (writes.flatMap Write.operations).foldl Index.carryOut c.index.documents
  /-- The index is committed. -/
  pending : c'.index.pending = []
  /-- All their news is one batch. -/
  bus : c'.bus = (c.bus.publish .news (Write.allNews c.store writes)).1

/-- No write at all. -/
theorem carried_nil (h : c.index.pending = []) : Carried c c [] :=
  ⟨rfl, rfl, h, rfl⟩

/-- What is left when the store is written: the index, and the news. -/
theorem carried_index {writes : List Write} {operations : List IndexOperation} {events : List Event}
    (h : c.index.pending = []) (hops : operations = writes.flatMap Write.operations)
    (hevents : events = Write.allNews c.store writes) (count : Nat) :
    Carried c (perform { c with store := Write.allToStore c.store writes }
      (.index operations events count)).1 writes := by
  subst hops hevents
  exact ⟨rfl, Index.documents_commit_enqueueAll h _, rfl, rfl⟩

/-- **Items that are added** are put one by one. -/
theorem carried_addItems (h : c.index.pending = []) (items : List Item) :
    Carried c (c.perform (.addItems items)).1 (items.map .put) ∧
      (c.perform (.addItems items)).2 = .ok items.length := by
  cases items with
  | nil => exact ⟨carried_nil h, rfl⟩
  | cons item items =>
    have hops : (item :: items).flatMap Index.replacement =
        ((item :: items).map Write.put).flatMap Write.operations := by
      rw [List.flatMap_map]
      rfl
    have hcarried := carried_index h hops
      (Write.allNews_puts c.store (item :: items)).symm (item :: items).length
    rw [Write.allToStore_puts] at hcarried
    exact ⟨hcarried, rfl⟩

/-- **What is deleted** is removed one by one. -/
theorem carried_delete (h : c.index.pending = []) (refs : List Reference) :
    Carried c (c.perform (.delete refs)).1 (refs.map .remove) ∧
      (c.perform (.delete refs)).2 =
        .ok (Write.allNews c.store (refs.map .remove)).length := by
  cases refs with
  | nil => exact ⟨carried_nil h, rfl⟩
  | cons ref refs =>
    have hops : (ref :: refs).map IndexOperation.delete =
        ((ref :: refs).map Write.remove).flatMap Write.operations := by
      rw [List.flatMap_map]
      exact List.map_eq_flatMap
    show Carried c (c.perform (.remove (ref :: refs) (ref :: refs) [])).1 _ ∧
      (c.perform (.remove (ref :: refs) (ref :: refs) [])).2 = _
    rw [perform_remove, List.map_nil, List.nil_append, List.length_nil, Nat.zero_add]
    exact ⟨carried_index h hops rfl _, rfl⟩

/-- An edit only puts items, or only removes references. -/
inductive Uniform : List Write → Prop where
  | puts (items : List Item) : Uniform (items.map .put)
  | removes (refs : List Reference) : Uniform (refs.map .remove)

/-- **An edit is some writes**, and its result the number of their news; or it fails, and then
nothing is done. -/
theorem carried_edit (h : c.index.pending = []) (e : Edit) :
    (∃ failure, c.perform e.change = (c, .error failure)) ∨
      ∃ writes, Uniform writes ∧ Carried c (c.perform e.change).1 writes ∧
        (c.perform e.change).2 = .ok (Write.allNews c.store writes).length := by
  have hadd : ∀ items, ∃ writes, Uniform writes ∧
      Carried c (c.perform (.addItems items)).1 writes ∧
      (c.perform (.addItems items)).2 = .ok (Write.allNews c.store writes).length := by
    intro items
    refine ⟨items.map .put, .puts items, (carried_addItems h items).1, ?_⟩
    rw [Write.allNews_puts, List.length_map]
    exact (carried_addItems h items).2
  cases e with
  | add items => exact Or.inr (hadd items)
  | update item => exact Or.inr (hadd [item])
  | setState refs state =>
    rw [Edit.change, perform_setState]
    cases moved c.store state refs with
    | ok items => exact Or.inr (hadd items)
    | error failure => exact Or.inl ⟨failure, rfl⟩
  | delete refs => exact Or.inr ⟨refs.map .remove, .removes refs, carried_delete h refs⟩

end Corpus

end LiveSearch
