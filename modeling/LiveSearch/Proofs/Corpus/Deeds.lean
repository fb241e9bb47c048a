import LiveSearch.Proofs.Corpus.Grown
import LiveSearch.Proofs.Corpus.LastWrite

/-!
# What the steps of a change do

Each step of a change does one thing to the corpus: it makes some writes in the store, or carries
out some operations in the index, or announces some events. This is its **deed** (`Change.deed`),
and what the corpus is after a step can be read off from it (`Change.store_step`,
`Change.documents_step`, `Change.announced_step`), whatever else is being done to the corpus.

The deeds of one change belong together (`Change.Kept`): its writes are what was asked for
(`Change.Asked`), what it does to the index are the operations of these writes, and what it
announces is their news. Nobody else has a part in this, so it is kept by the steps of the change
alone (`Change.Kept.step`). The news of a change and its operations therefore say of every
reference what its own last write has left there (`Write.Told.record`,
`Write.documents_operations`).
-/

namespace LiveSearch

/-! ### Writes in the index and in the news -/

/-- The reference that an operation is about. -/
def IndexOperation.ref : IndexOperation → Reference
  | .add d => d.ref
  | .delete ref => ref

namespace Index

/-- The documents for what is under a reference. -/
def documentsFor (item? : Option Item) : List Document :=
  (item?.map Document.ofItem).toList

end Index

namespace Write

/-- What a write does to the documents with a reference. -/
theorem filter_operations (w : Write) (documents : List Document) (ref : Reference) :
    (w.operations.foldl Index.carryOut documents).filter (·.ref = ref) =
      if w.ref = ref then Index.documentsFor w.left else documents.filter (·.ref = ref) := by
  have hrest : ∀ gone : Reference, (documents.filter (·.ref ≠ gone)).filter (·.ref = ref) =
      if gone = ref then [] else documents.filter (·.ref = ref) := by
    intro gone
    rw [List.filter_filter]
    split
    · next heq =>
      subst heq
      simp
    · next hne =>
      refine List.filter_congr fun d _ => ?_
      by_cases hd : d.ref = ref
      · simp [hd, Ne.symm hne]
      · simp [hd]
  cases w with
  | put item =>
    have hown : (Document.ofItem item).ref = item.ref := rfl
    rw [operations, Index.foldl_replacement, List.filter_append, hrest, Write.ref]
    split
    · next heq => simp [left, Index.documentsFor, hown, heq]
    · next hne => simp [hown, hne]
  | remove gone => exact hrest gone

/-- **The documents with a reference are those of what was left there.** -/
theorem documents_operations (writes : List Write) (documents : List Document) (ref : Reference) :
    ((writes.flatMap operations).foldl Index.carryOut documents).filter (·.ref = ref) =
      ((last? writes ref).map fun w => Index.documentsFor w.left).getD
        (documents.filter (·.ref = ref)) := by
  rw [List.foldl_flatMap]
  exact foldl_of_last (List.filter (·.ref = ref)) (fun w : Write => w.ref = ref)
    (fun w => Index.documentsFor w.left) (fun s w _ => w.filter_operations s ref) documents

/-- **Writes and their news**, as a change makes them: all items that were put are news, and of the
references that were removed those that were there. -/
inductive Told : List Write → List Event → Prop where
  | puts (items : List Item) : Told (items.map .put) (items.map Event.updated)
  | removes (refs removed : List Reference) (h : ∀ ref ∈ removed, ref ∈ refs) :
    Told (refs.map .remove) (removed.map Event.deleted)

/-- What was removed leaves nothing. -/
theorem leave_removes (refs : List Reference) (ref : Reference) :
    leave (refs.map .remove) ref = none := by
  induction refs using List.reverseRecOn with
  | nil => rfl
  | append_singleton refs gone ih =>
    rw [List.map_append, List.map_singleton, leave_concat, ih]
    split <;> rfl

/-- **The news of some writes record what was left.** -/
theorem Told.record {writes : List Write} {events : List Event} (h : Told writes events)
    (contents : Reference → Option Item) (ref : Reference) :
    events.foldl Event.record contents ref =
      if events.any (·.ref = ref) then leave writes ref else contents ref := by
  cases h with
  | puts items =>
    induction items using List.reverseRecOn with
    | nil => rfl
    | append_singleton items item ih =>
      rw [List.map_append, List.foldl_append, List.map_singleton, List.foldl_cons, List.foldl_nil,
        Event.record_updated, ih, List.any_append, List.map_append, List.map_singleton,
        leave_concat]
      by_cases href : item.ref = ref <;> simp [href, Write.ref, left]
  | removes refs removed hsub =>
    rw [leave_removes]
    clear hsub
    induction removed using List.reverseRecOn with
    | nil => rfl
    | append_singleton removed gone ih =>
      rw [List.map_append, List.foldl_append, List.map_singleton, List.foldl_cons, List.foldl_nil,
        Event.record_deleted, ih, List.any_append]
      by_cases href : gone = ref <;> simp [href, Event.ref_deleted]

/-- The news are about what was written. -/
theorem Told.any_of_any {writes : List Write} {events : List Event} (h : Told writes events)
    {ref : Reference} (he : events.any (·.ref = ref) = true) :
    writes.any (·.ref = ref) = true := by
  rw [List.any_eq_true] at he ⊢
  obtain ⟨e, hmem, hself⟩ := he
  cases h with
  | puts items =>
    obtain ⟨item, hitem, rfl⟩ := List.mem_map.mp hmem
    exact ⟨.put item, List.mem_map_of_mem hitem, hself⟩
  | removes refs removed hsub =>
    obtain ⟨gone, hgone, rfl⟩ := List.mem_map.mp hmem
    exact ⟨.remove gone, List.mem_map_of_mem (hsub gone hgone), hself⟩

/-- The operations are about what was written. -/
theorem any_operations (writes : List Write) (ref : Reference) :
    (writes.flatMap operations).any (·.ref = ref) = writes.any (·.ref = ref) := by
  have hone : ∀ w : Write, w.operations.any (·.ref = ref) = decide (w.ref = ref) := by
    intro w
    cases w with
    | put item =>
      show (decide (item.ref = ref) || (decide (item.ref = ref) || false)) = _
      rw [Bool.or_false, Bool.or_self]
      rfl
    | remove gone => exact Bool.or_false _
  rw [List.any_flatMap]
  congr 1
  funext w
  exact hone w

/-- **Writes without news change nothing.** -/
theorem get_allToStore_of_silent {s : Store} {writes : List Write} {ref : Reference}
    (h : ∀ e ∈ allNews s writes, e.ref ≠ ref) : (allToStore s writes).get ref = s.get ref := by
  induction writes generalizing s with
  | nil => rfl
  | cons w rest ih =>
    rw [allNews] at h
    rw [allToStore_cons, ih fun e he => h e (List.mem_append_right _ he), get_toStore]
    split
    · next heq =>
      subst heq
      cases w with
      | put item => exact absurd rfl (h (Event.updated item) (by simp [news]))
      | remove gone =>
        -- there was nothing to remove
        have hout : s.contains gone = false := by
          rw [Bool.eq_false_iff]
          intro hin
          exact h (Event.deleted gone) (by simp [news, hin]) rfl
        rw [Store.contains, Table.contains_eq, Option.isSome_eq_false_iff,
          Option.isNone_iff_eq_none] at hout
        rw [Store.get, Write.ref, hout]
        rfl
    · rfl

end Write

/-! ### Deeds -/

/-- **What one step of a change does.** -/
structure Deed where
  /-- What is written in the store. -/
  writes : List Write := []
  /-- The news that the writes make. -/
  news : List Event := []
  /-- What is carried out in the index. -/
  operations : List IndexOperation := []
  /-- What is announced. -/
  events : List Event := []

/-- Some deeds taken together. -/
def Deed.total (deeds : List Deed) : Deed :=
  { writes := deeds.flatMap (·.writes)
    news := deeds.flatMap (·.news)
    operations := deeds.flatMap (·.operations)
    events := deeds.flatMap (·.events) }

/-- A deed after others. -/
def Deed.after (t d : Deed) : Deed :=
  { writes := t.writes ++ d.writes
    news := t.news ++ d.news
    operations := t.operations ++ d.operations
    events := t.events ++ d.events }

theorem Deed.total_concat (deeds : List Deed) (d : Deed) :
    total (deeds ++ [d]) = (total deeds).after d := by
  simp only [total, after, List.flatMap_append, List.flatMap_singleton]

namespace Change

/-- **The deed of the next step.** -/
def deed (s : Store) : Change → Deed
  | .write items => { writes := items.map .put, news := items.map Event.updated }
  | .remove (ref :: _) _ _ => { writes := [.remove ref], news := (Write.remove ref).news s }
  | .index operations _ _ => { operations }
  | .announce events _ => { events }
  | _ => {}

variable {c : Corpus}

/-- **The store after a step.** -/
theorem store_step (c : Corpus) (change : Change) :
    (change.step c).1.store = Write.allToStore c.store (change.deed c.store).writes := by
  cases change with
  | lookUp refs state found =>
    rw [(lookUp_step c refs state found).1]
    rfl
  | write items => exact (Write.allToStore_puts c.store items).symm
  | remove rest refs removed => cases rest <;> rfl
  | index operations events count => rfl
  | announce events count => rfl
  | done result => rfl

/-- The news of a step are those of its writes. -/
theorem news_deed (s : Store) (change : Change) :
    (change.deed s).news = Write.allNews s (change.deed s).writes := by
  cases change with
  | write items => exact (Write.allNews_puts s items).symm
  | remove rest refs removed =>
    cases rest with
    | nil => rfl
    | cons ref rest => exact (List.append_nil _).symm
  | lookUp refs state found => rfl
  | index operations events count => rfl
  | announce events count => rfl
  | done result => rfl

/-- **The documents after a step.** -/
theorem documents_step (h : c.index.pending = []) (change : Change) :
    (change.step c).1.index.pending = [] ∧ (change.step c).1.index.documents =
      (change.deed c.store).operations.foldl Index.carryOut c.index.documents := by
  cases change with
  | lookUp refs state found =>
    rw [(lookUp_step c refs state found).1]
    exact ⟨h, rfl⟩
  | write items => exact ⟨h, rfl⟩
  | remove rest refs removed => cases rest <;> exact ⟨h, rfl⟩
  | index operations events count => exact ⟨rfl, Index.documents_commit_enqueueAll h operations⟩
  | announce events count => exact ⟨h, rfl⟩
  | done result => exact ⟨h, rfl⟩

/-- **What was announced after a step.** -/
theorem announced_step {id : Nat} (h : c.bus.Listens id) (change : Change) :
    (change.step c).1.bus.Listens id ∧ ((change.step c).1.bus.queue id).flatten =
      (c.bus.queue id).flatten ++ (change.deed c.store).events := by
  have hsame : (c.bus.queue id).flatten = (c.bus.queue id).flatten ++ [] :=
    (List.append_nil _).symm
  cases change with
  | lookUp refs state found =>
    rw [(lookUp_step c refs state found).1]
    exact ⟨h, hsame⟩
  | write items => exact ⟨h, hsame⟩
  | remove rest refs removed => cases rest <;> exact ⟨h, hsame⟩
  | index operations events count => exact ⟨h, hsame⟩
  | announce events count => exact ⟨h.publish .news events, Bus.flatten_queue_publish h events⟩
  | done result => exact ⟨h, hsame⟩

/-! ### The deeds of one change -/

/-- **The writes that an edit asks for.** Which items move to a state depends on what is stored while
they are looked up. -/
inductive Asked : Edit → List Write → Prop where
  | add (items : List Item) : Asked (.add items) (items.map .put)
  | update (item : Item) : Asked (.update item) [.put item]
  | setState (refs : List Reference) (state : State) (moved : List Item)
    (h : ∀ item ∈ moved, item.ref ∈ refs ∧ item.state = state) :
    Asked (.setState refs state) (moved.map .put)
  | delete (refs : List Reference) : Asked (.delete refs) (refs.map .remove)

/-- **How far an edit has come** with its deeds. -/
inductive Kept : Edit → Deed → Change → Prop where
  /-- Some items have been looked up. -/
  | lookUp (rest refs : List Reference) (state : State) (found : List Item)
    (hrest : ∀ ref ∈ rest, ref ∈ refs)
    (hfound : ∀ item ∈ found, item.ref ∈ refs ∧ item.state = state) :
    Kept (.setState refs state) {} (.lookUp rest state found)
  /-- The items are known. -/
  | write {e : Edit} {items : List Item} (h : Asked e (items.map .put)) : Kept e {} (.write items)
  /-- Some references have been removed. -/
  | remove (gone rest removed : List Reference) (h : ∀ ref ∈ removed, ref ∈ gone) :
    Kept (.delete (gone ++ rest))
      { writes := gone.map .remove, news := removed.map Event.deleted }
      (.remove rest (gone ++ rest) removed)
  /-- The store is written. -/
  | index {e : Edit} {writes : List Write} {news : List Event} (h : Asked e writes)
    (htold : Write.Told writes news) (count : Nat) :
    Kept e { writes, news } (.index (writes.flatMap Write.operations) news count)
  /-- Store and index are written. -/
  | announce {e : Edit} {writes : List Write} {news : List Event} (h : Asked e writes)
    (htold : Write.Told writes news) (count : Nat) :
    Kept e { writes, news, operations := writes.flatMap Write.operations } (.announce news count)
  /-- Everything has been done. -/
  | done {e : Edit} {writes : List Write} {news : List Event} (h : Asked e writes)
    (htold : Write.Told writes news) (count : Nat) :
    Kept e { writes, news, operations := writes.flatMap Write.operations, events := news }
      (.done (.ok count))
  /-- Nothing was done, because an item could not be looked up. -/
  | failed (e : Edit) (failure : Failure) : Kept e {} (.done (.error failure))

namespace Kept

theorem addItems {e : Edit} {items : List Item} (h : Asked e (items.map .put)) :
    Kept e {} (addItems items) := by
  rw [Change.addItems]
  split
  · next hempty =>
    rw [List.isEmpty_iff.mp hempty] at h
    exact .done h (.puts []) 0
  · exact .write h

/-- **An edit begins** with no deed. -/
theorem edit (e : Edit) : Kept e {} e.change := by
  cases e with
  | add items => exact .addItems (.add items)
  | update item =>
    have hasked : Asked (.update item) ([item].map .put) := .update item
    exact .addItems hasked
  | setState refs state =>
    refine .lookUp refs refs state [] (fun _ h => h) fun item hitem => ?_
    cases hitem
  | delete refs =>
    rw [Edit.change, Change.delete]
    split
    · next hempty =>
      rw [List.isEmpty_iff.mp hempty]
      exact .done (.delete []) (.removes [] [] fun _ h => h) 0
    · exact .remove [] refs [] fun _ h => h

/-- **A step adds its deed.** -/
theorem step {e : Edit} {t : Deed} {change : Change} (h : Kept e t change) {c : Corpus}
    (hfound : ∀ ref item, c.store.resolve ref = .ok item → item.ref = ref) :
    Kept e (t.after (change.deed c.store)) (change.step c).2 := by
  cases h with
  | lookUp rest refs state found hrest hitems =>
    cases rest with
    | nil => exact .addItems (.setState refs state found hitems)
    | cons ref rest =>
      have hlater : ∀ r ∈ rest, r ∈ refs := fun r hr => hrest r (List.mem_cons_of_mem _ hr)
      rw [Change.step]
      split
      · next item hitem =>
        refine .lookUp rest refs state _ hlater fun moved hmoved => ?_
        rw [collect] at hmoved
        split at hmoved
        · exact hitems moved hmoved
        · rcases List.mem_append.mp hmoved with hold | hnew
          · exact hitems moved hold
          · obtain rfl := List.mem_singleton.mp hnew
            have href : item.ref = ref := hfound ref item hitem
            exact ⟨href ▸ hrest ref List.mem_cons_self, rfl⟩
      · exact .failed _ _
  | write hasked =>
    next items =>
    have hops : items.flatMap Index.replacement =
        (items.map Write.put).flatMap Write.operations := by
      rw [List.flatMap_map]
      rfl
    rw [Change.step, hops]
    exact .index hasked (.puts items) _
  | remove gone rest removed hsub =>
    cases rest with
    | nil =>
      have hops : (gone ++ []).map IndexOperation.delete =
          (gone.map Write.remove).flatMap Write.operations := by
        rw [List.append_nil, List.flatMap_map]
        exact List.map_eq_flatMap
      rw [Change.step, hops, List.append_nil]
      simp only [Deed.after, deed, List.append_nil]
      exact .index (.delete gone) (.removes gone removed hsub) _
    | cons ref rest =>
      rw [Change.step, List.append_cons gone ref rest]
      simp only [Deed.after, deed, Write.news]
      by_cases hin : c.store.contains ref
      · have hsub' : ∀ r ∈ removed ++ [ref], r ∈ gone ++ [ref] := by
          intro r hr
          rcases List.mem_append.mp hr with hr | hr
          · exact List.mem_append_left _ (hsub r hr)
          · exact List.mem_append_right _ hr
        simpa [hin] using Kept.remove (gone ++ [ref]) rest (removed ++ [ref]) hsub'
      · have hsub' : ∀ r ∈ removed, r ∈ gone ++ [ref] := fun r hr =>
          List.mem_append_left _ (hsub r hr)
        simpa [hin] using Kept.remove (gone ++ [ref]) rest removed hsub'
  | index hasked htold count =>
    simp only [Deed.after, deed, List.append_nil, List.nil_append]
    exact .announce hasked htold count
  | announce hasked htold count =>
    simp only [Deed.after, deed, List.append_nil, List.nil_append]
    exact .done hasked htold count
  | done hasked htold count =>
    simp only [Deed.after, deed, List.append_nil]
    exact .done hasked htold count
  | failed _ failure => exact .failed _ failure

/-- **What an edit has done** when it is done. -/
theorem of_done {e : Edit} {t : Deed} {result : Except Failure Nat}
    (h : Kept e t (.done result)) :
    Write.Told t.writes t.news ∧ t.operations = t.writes.flatMap Write.operations ∧
      t.events = t.news := by
  cases h with
  | done hasked htold count => exact ⟨htold, rfl, rfl⟩
  | failed => exact ⟨.puts [], rfl, rfl⟩

/-- An edit that has not failed has made the writes that it asks for. -/
theorem asked_of_done {e : Edit} {t : Deed} {count : Nat} (h : Kept e t (.done (.ok count))) :
    Asked e t.writes := by
  cases h with
  | done hasked htold count => exact hasked

/-- What a change does in the index is done in one deed, and so is what it announces. -/
theorem eq_nil_or {e : Edit} {t : Deed} {change : Change} (h : Kept e t change) (s : Store) :
    (t.operations = [] ∨ (change.deed s).operations = []) ∧
      (t.events = [] ∨ (change.deed s).events = []) := by
  cases h with
  | lookUp rest refs state found hrest hitems => exact ⟨Or.inl rfl, Or.inl rfl⟩
  | write hasked => exact ⟨Or.inl rfl, Or.inl rfl⟩
  | remove gone rest removed hsub => exact ⟨Or.inl rfl, Or.inl rfl⟩
  | index hasked htold count => exact ⟨Or.inl rfl, Or.inl rfl⟩
  | announce hasked htold count => exact ⟨Or.inr rfl, Or.inl rfl⟩
  | done hasked htold count => exact ⟨Or.inr rfl, Or.inr rfl⟩
  | failed => exact ⟨Or.inl rfl, Or.inl rfl⟩

end Kept

end Change

end LiveSearch
