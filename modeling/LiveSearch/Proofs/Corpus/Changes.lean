import LiveSearch.Corpus
import LiveSearch.Proofs.Corpus.Bus
import LiveSearch.Proofs.Corpus.Index
import LiveSearch.Proofs.Corpus.Store

/-!
# A change under way

A change goes through the store, the index and the bus in this order, one atomic step after the
other. Between the steps the three disagree, but in a way that can be said exactly: the index
**reflects** the store (`Store.Reflects`) except on the references of the events that are still to
be announced, and these events tell of what the store has already done. That this is so at every
moment of every change is `Corpus.Steady`.

What a single step does is said once (`Corpus.Steady.step`, `Change.step_tells`): it makes some
news, which is added to what is still to be announced; or it announces, and then it is the queue of
a subscription that has grown by it.
-/

namespace LiveSearch

/-! ### Documents and items -/

namespace Store

/-- **The documents are those of stored items.** -/
def Reflects (documents : List Document) (s : Store) : Prop :=
  ∀ d ∈ documents, ∃ item, s.resolve d.ref = .ok item ∧ d = Document.ofItem item

theorem reflects_nil (s : Store) : Reflects [] s := by
  intro d hd
  cases hd

variable {s : Store} {documents : List Document}

/-- Replacing an item in the index follows writing it to the store. -/
theorem Reflects.replace (h : Reflects documents s) (item : Item) :
    Reflects ((Index.replacement item).foldl Index.carryOut documents) (s.put item) := by
  rw [Index.foldl_replacement]
  intro d hd
  rw [resolve_put]
  rcases List.mem_append.mp hd with hd | hd
  · obtain ⟨hmem, hne⟩ := List.mem_filter.mp hd
    have href : item.ref ≠ d.ref := Ne.symm (by simpa using hne)
    rw [if_neg href]
    exact h d hmem
  · obtain rfl := List.mem_singleton.mp hd
    exact ⟨item, if_pos rfl, rfl⟩

theorem Reflects.replaceAll (h : Reflects documents s) (items : List Item) :
    Reflects ((items.flatMap Index.replacement).foldl Index.carryOut documents)
      (s.putAll items) := by
  induction items generalizing documents s with
  | nil => exact h
  | cons item items ih =>
    rw [List.flatMap_cons, List.foldl_append]
    exact ih (h.replace item)

/-- Deleting references from the index follows a store that has changed on no others. -/
theorem Reflects.deleteAll {t : Store} {refs : List Reference} (h : Reflects documents s)
    (hsame : ∀ ref, ref ∉ refs → t.resolve ref = s.resolve ref) :
    Reflects ((refs.map IndexOperation.delete).foldl Index.carryOut documents) t := by
  rw [Index.foldl_deletions]
  intro d hd
  obtain ⟨hmem, hout⟩ := List.mem_filter.mp hd
  rw [hsame d.ref (by simpa using hout)]
  exact h d hmem

end Store

/-! ### Between the steps -/

namespace Change

/-- The events that are still to be announced for what the store has already done. -/
def unannounced : Change → List Event
  | .lookUp .. | .write _ | .done _ => []
  | .remove _ _ removed => removed.map Event.deleted
  | .index _ events _ => events
  | .announce events _ => events

/-- **How far a change has come**, as seen from the documents of the index and from the store. -/
def Underway (documents : List Document) (s : Store) : Change → Prop
  | .remove rest refs removed =>
    ∃ before gone, refs = gone ++ rest ∧ Store.Reflects documents before ∧
      Store.Tells (removed.map Event.deleted) before s ∧
      ∀ ref, ref ∉ gone → s.resolve ref = before.resolve ref
  | .index operations events _ =>
    (∃ before, Store.Reflects documents before ∧ Store.Tells events before s) ∧
      Store.Reflects (operations.foldl Index.carryOut documents) s
  | _ => Store.Reflects documents s

/-- Whatever a change is doing, a document whose reference is not still to be announced is that of
the stored item. -/
theorem Underway.stored {documents : List Document} {s : Store} {change : Change}
    (h : change.Underway documents s) {d : Document} (hd : d ∈ documents)
    (hsilent : Event.lastWord? change.unannounced d.ref = none) :
    ∃ item, s.resolve d.ref = .ok item ∧ d = Document.ofItem item := by
  cases change with
  | remove rest refs removed =>
    obtain ⟨before, gone, -, hreflects, htells, -⟩ := h
    rw [htells.silent d.ref hsilent]
    exact hreflects d hd
  | index operations events count =>
    obtain ⟨⟨before, hreflects, htells⟩, -⟩ := h
    rw [htells.silent d.ref hsilent]
    exact hreflects d hd
  | lookUp refs state found => exact h d hd
  | write items => exact h d hd
  | announce events count => exact h d hd
  | done result => exact h d hd

theorem underway_addItems {documents : List Document} {s : Store}
    (h : Store.Reflects documents s) (items : List Item) :
    (addItems items).Underway documents s := by
  rw [addItems]
  split
  · exact h
  · exact h

theorem unannounced_addItems (items : List Item) : (addItems items).unannounced = [] := by
  rw [addItems]
  split <;> rfl

/-- Looking items up leaves the corpus alone, and there is nothing to announce. -/
theorem lookUp_step (c : Corpus) (refs : List Reference) (state : State) (found : List Item) :
    (step c (.lookUp refs state found)).1 = c ∧
      (step c (.lookUp refs state found)).2.unannounced = [] := by
  cases refs with
  | nil => exact ⟨rfl, unannounced_addItems found⟩
  | cons ref rest =>
    rw [step]
    split <;> exact ⟨rfl, rfl⟩

end Change

/-! ### What a step does -/

/-- **A corpus in which a change is under way.** -/
structure Corpus.Steady (c : Corpus) (change : Change) : Prop where
  /-- Lookups find the items of their references. -/
  faithful : c.store.Faithful
  /-- Nothing is left to commit. -/
  pending : c.index.pending = []
  /-- Store and index are as far as the change has come. -/
  underway : change.Underway c.index.documents c.store

/-- **Every step keeps a corpus steady.** -/
theorem Corpus.Steady.step {c : Corpus} {change : Change} (h : c.Steady change) :
    (change.step c).1.Steady (change.step c).2 := by
  obtain ⟨hfaithful, hpending, hunder⟩ := h
  cases change with
  | lookUp refs state found =>
    cases refs with
    | nil => exact ⟨hfaithful, hpending, Change.underway_addItems hunder found⟩
    | cons ref rest =>
      rw [Change.step]
      split
      · exact ⟨hfaithful, hpending, hunder⟩
      · exact ⟨hfaithful, hpending, hunder⟩
  | write items =>
    have hreflects : Store.Reflects c.index.documents c.store := hunder
    exact ⟨hfaithful.putAll items, hpending,
      ⟨c.store, hreflects, c.store.tells_putAll items⟩, hreflects.replaceAll items⟩
  | remove rest refs removed =>
    -- the index still has the documents of the store from before the removals
    obtain ⟨before, gone, hrefs, hreflects, htells, hsame⟩ := hunder
    cases rest with
    | nil =>
      rw [List.append_nil] at hrefs
      refine ⟨hfaithful, hpending, ⟨before, hreflects, htells⟩, hreflects.deleteAll ?_⟩
      rw [hrefs]
      exact hsame
    | cons ref rest =>
      refine ⟨hfaithful.remove ref, hpending, before, gone ++ [ref], ?_, hreflects, ?_, ?_⟩
      · rw [hrefs, List.append_assoc, List.singleton_append]
      -- a reference that was not there makes no news, and none is announced for it
      · have hboth := htells.append (c.store.tells_remove ref)
        show Store.Tells ((if c.store.contains ref then removed ++ [ref] else removed).map
          Event.deleted) before (c.store.remove ref)
        by_cases hin : c.store.contains ref
        · simpa [hin] using hboth
        · simpa [hin] using hboth
      · intro ref' hnot
        have hne : ref ≠ ref' := by
          rintro rfl
          exact hnot (by simp)
        rw [← hsame ref' fun hmem => hnot (List.mem_append_left _ hmem)]
        exact (c.store.resolve_remove ref ref').trans (if_neg hne)
  | index operations events count =>
    obtain ⟨-, hreflects⟩ := hunder
    refine ⟨hfaithful, rfl, ?_⟩
    show Store.Reflects ((c.index.enqueueAll operations).commit).documents c.store
    -- nothing but the operations of this change is committed
    rw [Index.documents_commit_enqueueAll hpending]
    exact hreflects
  | announce events count => exact ⟨hfaithful, hpending, hunder⟩
  | done result => exact ⟨hfaithful, hpending, hunder⟩

/-- **What a step tells**: some news of the store, which stands behind all that a subscription has
still to hear. -/
theorem Change.step_tells {c : Corpus} {id : Nat} (hlistens : c.bus.Listens id)
    (change : Change) :
    (change.step c).1.bus.Listens id ∧
      ∃ news, Store.Tells news c.store (change.step c).1.store ∧
        ((change.step c).1.bus.queue id).flatten ++ (change.step c).2.unannounced =
          (c.bus.queue id).flatten ++ change.unannounced ++ news := by
  cases change with
  | lookUp refs state found =>
    obtain ⟨hsame, hnothing⟩ := lookUp_step c refs state found
    refine ⟨?_, [], ?_, ?_⟩
    · rw [hsame]
      exact hlistens
    · rw [hsame]
      exact c.store.tells_nil
    · rw [hsame, hnothing]
      simp [unannounced]
  | write items =>
    exact ⟨hlistens, _, c.store.tells_putAll items, by simp [Change.step, unannounced]⟩
  | remove rest refs removed =>
    cases rest with
    | nil => exact ⟨hlistens, [], c.store.tells_nil, by simp [Change.step, unannounced]⟩
    | cons ref rest =>
      refine ⟨hlistens, _, c.store.tells_remove ref, ?_⟩
      by_cases hin : c.store.contains ref <;> simp [Change.step, unannounced, hin]
  | index operations events count =>
    exact ⟨hlistens, [], c.store.tells_nil, by simp [Change.step, unannounced]⟩
  | announce events count =>
    refine ⟨hlistens.publish .news events, [], c.store.tells_nil, ?_⟩
    -- what was to be announced stands at the end of the queue now
    have hqueue := Bus.flatten_queue_publish hlistens events
    simp only [Change.step, unannounced, List.append_nil, hqueue]
  | done result => exact ⟨hlistens, [], c.store.tells_nil, by simp [Change.step, unannounced]⟩

end LiveSearch
