import LiveSearch.Proofs.Corpus.Index
import LiveSearch.Proofs.Corpus.Store
import Mathlib.Data.List.Nodup
import Mathlib.Data.List.Perm.Lattice

/-!
# Writes

Whatever is done to a corpus comes down to **writes** (`Write`): an item is put under its reference,
or a reference is removed. A write has its part in each of the three things that a corpus keeps –
what it does to the store, the operations that it asks of the index, and the news that it makes.

The three are **in step** (`InStep`) if each of them says of every reference what the same map does:
the store gives it back, the searchable documents are those of its items, and it is what the news
amount to when they are recorded one after the other (`Event.record`). One write keeps them in step
(`InStep.write`), so any number of writes does (`InStep.writes`). It does not matter for this
whether something is written twice, or removed that is not there: the one is two writes, and the
other makes no news and finds no document.
-/

namespace LiveSearch

/-! ### What events record -/

namespace Event

/-- **A map after an event**: an update puts its snapshot under its reference, and a deletion leaves
nothing there. -/
def record (contents : Reference → Option Item) (e : Event) : Reference → Option Item := fun ref =>
  if e.ref = ref then
    match e.kind, e.snapshot with
    | .updated, some item => some item
    | .deleted, _ => none
    | _, _ => contents ref
  else contents ref

/-- The map that some events amount to, recorded one after the other from nothing. -/
def recordAll (events : List Event) : Reference → Option Item :=
  events.foldl record fun _ => none

theorem record_updated (contents : Reference → Option Item) (item : Item) (ref : Reference) :
    record contents (updated item) ref = if item.ref = ref then some item else contents ref := rfl

theorem record_deleted (contents : Reference → Option Item) (ref ref' : Reference) :
    record contents (deleted ref) ref' = if ref = ref' then none else contents ref' := rfl

end Event

/-! ### Writes -/

/-- **What is written** to a corpus. -/
inductive Write where
  /-- An item is put under its reference. -/
  | put (item : Item)
  /-- A reference is removed. -/
  | remove (ref : Reference)

namespace Write

/-- The store after a write. -/
def toStore (s : Store) : Write → Store
  | .put item => s.put item
  | .remove ref => s.remove ref

/-- What a write asks of the index. -/
def operations : Write → List IndexOperation
  | .put item => Index.replacement item
  | .remove ref => [.delete ref]

/-- The news that a write makes of a store. Removing what is not there is no news. -/
def news (s : Store) : Write → List Event
  | .put item => [Event.updated item]
  | .remove ref => if s.contains ref then [Event.deleted ref] else []

/-- The store after some writes. -/
def allToStore (s : Store) (writes : List Write) : Store :=
  writes.foldl toStore s

/-- The news that some writes make, one after the other. -/
def allNews (s : Store) : List Write → List Event
  | [] => []
  | w :: rest => w.news s ++ allNews (w.toStore s) rest

theorem allToStore_cons (s : Store) (w : Write) (rest : List Write) :
    allToStore s (w :: rest) = allToStore (w.toStore s) rest := rfl

/-- Items that are put one after the other. -/
theorem allToStore_puts (s : Store) (items : List Item) :
    allToStore s (items.map .put) = s.putAll items := by
  rw [allToStore, List.foldl_map]
  rfl

theorem allNews_puts (s : Store) (items : List Item) :
    allNews s (items.map .put) = items.map Event.updated := by
  induction items generalizing s with
  | nil => rfl
  | cons item items ih =>
    rw [List.map_cons, allNews, ih]
    rfl

/-- Removals leave nothing under their references, and everything else as it was. -/
theorem contains_allToStore_removes {s : Store} {refs : List Reference} {ref : Reference} :
    (allToStore s (refs.map .remove)).contains ref = true ↔
      ref ∉ refs ∧ s.contains ref = true := by
  induction refs generalizing s with
  | nil => simp [allToStore]
  | cons first refs ih =>
    rw [List.map_cons, allToStore_cons, ih, toStore, Store.contains_remove, List.mem_cons, not_or,
      and_left_comm, and_assoc, ne_comm]

/-- The news of removals is of what was there. -/
theorem mem_allNews_removes {s : Store} {refs : List Reference} {e : Event}
    (h : e ∈ allNews s (refs.map .remove)) :
    ∃ ref ∈ refs, e = Event.deleted ref ∧ s.contains ref = true := by
  induction refs generalizing s with
  | nil => cases h
  | cons first refs ih =>
    rw [List.map_cons, allNews] at h
    rcases List.mem_append.mp h with hfirst | hrest
    · rw [news] at hfirst
      split at hfirst
      · next hin => exact ⟨first, List.mem_cons_self, List.mem_singleton.mp hfirst, hin⟩
      · cases hfirst
    · obtain ⟨ref, hmem, rfl, hin⟩ := ih hrest
      exact ⟨ref, List.mem_cons_of_mem _ hmem, rfl, (Store.contains_remove.mp hin).2⟩

/-- Writes that make no news leave the store as it was. -/
theorem allToStore_of_allNews_nil {s : Store} {writes : List Write} (h : allNews s writes = []) :
    allToStore s writes = s := by
  induction writes with
  | nil => rfl
  | cons w rest ih =>
    obtain ⟨hfirst, hrest⟩ := List.append_eq_nil_iff.mp h
    cases w with
    | put item => cases hfirst
    | remove ref =>
      have hout : s.contains ref = false := by
        rw [news] at hfirst
        split at hfirst
        · cases hfirst
        · next hnot => simpa using hnot
      have hsame : s.remove ref = s := by
        rw [Store.remove, Table.erase_eq_self hout]
      rw [toStore, hsame] at hrest
      rw [allToStore_cons, toStore, hsame]
      exact ih hrest

end Write

/-! ### In step -/

/-- **The stored items**, in the order of their references. -/
def Store.stored (s : Store) : List Item :=
  s.items.entries.filterMap fun entry => Item.decode? entry.2

/-- **A store, some documents and a map are in step.** -/
structure InStep (contents : Reference → Option Item) (s : Store) (documents : List Document) :
    Prop where
  /-- The references of the store ascend. -/
  ascending : s.items.Ascending
  /-- The store gives the map back. -/
  get : ∀ ref, s.get ref = .ok (contents ref)
  /-- Every item stands under its own reference. -/
  keyed : ∀ ref item, contents ref = some item → item.ref = ref
  /-- No reference has two documents. -/
  distinct : (documents.map (·.ref)).Nodup
  /-- The documents are those of the items. -/
  reflects : ∀ d, d ∈ documents ↔ ∃ ref item, contents ref = some item ∧ d = Document.ofItem item

namespace InStep

variable {contents : Reference → Option Item} {s : Store} {documents : List Document}

theorem empty : InStep (fun _ => none) {} [] := by
  refine ⟨List.Pairwise.nil, fun ref => rfl, fun ref item hnone => ?_, List.nodup_nil, fun d => ?_⟩
  · cases hnone
  · simp

/-- A reference with nothing in the store has nothing in the map. -/
theorem eq_none_of_not_contains (h : InStep contents s documents) {ref : Reference}
    (hout : s.contains ref = false) : contents ref = none := by
  have hget := h.get ref
  rw [Store.contains, Table.contains_eq, Option.isSome_eq_false_iff, Option.isNone_iff_eq_none]
    at hout
  rw [Store.get, hout] at hget
  exact (Except.ok.inj hget).symm

/-- The documents of other references are those of the other items. -/
theorem mem_filter_ne (h : InStep contents s documents) (ref : Reference) (d : Document) :
    d ∈ documents.filter (·.ref ≠ ref) ↔
      ∃ ref' item, (if ref = ref' then none else contents ref') = some item ∧
        d = Document.ofItem item := by
  rw [List.mem_filter, h.reflects, decide_eq_true_iff]
  constructor
  · rintro ⟨⟨ref', item, hitem, rfl⟩, hne⟩
    have hown : item.ref = ref' := h.keyed ref' item hitem
    have hother : ref ≠ ref' := fun heq => hne (hown.trans heq.symm)
    exact ⟨ref', item, by rw [if_neg hother]; exact hitem, rfl⟩
  · rintro ⟨ref', item, hitem, rfl⟩
    split at hitem
    · cases hitem
    · next hother =>
      have hown : item.ref = ref' := h.keyed ref' item hitem
      exact ⟨⟨ref', item, hitem, rfl⟩, fun heq => hother (heq.symm.trans hown)⟩

/-- Putting an item keeps everything in step. -/
theorem put (h : InStep contents s documents) (item : Item) :
    InStep (Event.record contents (Event.updated item)) (s.put item)
      ((Index.replacement item).foldl Index.carryOut documents) := by
  refine ⟨h.ascending.insert _ _, fun ref => ?_, fun ref v hv => ?_, ?_, fun d => ?_⟩
  · rw [Store.get_put, Event.record_updated, h.get]
    split <;> rfl
  · rw [Event.record_updated] at hv
    split at hv
    · next href => exact Option.some.inj hv ▸ href
    · exact h.keyed ref v hv
  · rw [Index.foldl_replacement, List.map_append, List.nodup_append]
    refine ⟨h.distinct.sublist (List.filter_sublist.map _), List.nodup_singleton _, ?_⟩
    intro ref hold ref' hnew heq
    obtain ⟨d, hd, rfl⟩ := List.mem_map.mp hold
    have hne := (List.mem_filter.mp hd).2
    obtain rfl := List.mem_singleton.mp hnew
    rw [decide_eq_true_iff] at hne
    exact hne heq
  · rw [Index.foldl_replacement, List.mem_append, h.mem_filter_ne, List.mem_singleton]
    constructor
    · rintro (⟨ref, v, hv, rfl⟩ | rfl)
      · split at hv
        · cases hv
        · next hother => exact ⟨ref, v, by rw [Event.record_updated, if_neg hother]; exact hv, rfl⟩
      · exact ⟨item.ref, item, by rw [Event.record_updated, if_pos rfl], rfl⟩
    · rintro ⟨ref, v, hv, rfl⟩
      rw [Event.record_updated] at hv
      split at hv
      · exact Or.inr (Option.some.inj hv ▸ rfl)
      · next hother => exact Or.inl ⟨ref, v, by rw [if_neg hother]; exact hv, rfl⟩

/-- Removing a reference keeps everything in step, whether or not there is something to remove. -/
theorem remove (h : InStep contents s documents) (ref : Reference) :
    InStep (((Write.remove ref).news s).foldl Event.record contents) (s.remove ref)
      (Index.carryOut documents (.delete ref)) := by
  have hrecorded : ((Write.remove ref).news s).foldl Event.record contents =
      fun ref' => if ref = ref' then none else contents ref' := by
    rw [Write.news]
    split
    · funext ref'
      exact Event.record_deleted contents ref ref'
    · next hout =>
      funext ref'
      show contents ref' = _
      split
      · next heq =>
        rw [← heq]
        exact h.eq_none_of_not_contains (by simpa using hout)
      · rfl
  rw [hrecorded]
  refine ⟨h.ascending.erase _, fun ref' => ?_, fun ref' v hv => ?_, ?_, h.mem_filter_ne ref⟩
  · rw [Store.get_remove, h.get]
    split <;> rfl
  · split at hv
    · cases hv
    · exact h.keyed ref' v hv
  · exact h.distinct.sublist (List.filter_sublist.map _)

/-- **One write keeps everything in step.** -/
theorem write (h : InStep contents s documents) (w : Write) :
    InStep ((w.news s).foldl Event.record contents) (w.toStore s)
      (w.operations.foldl Index.carryOut documents) := by
  cases w with
  | put item => exact h.put item
  | remove ref => exact h.remove ref

/-- **Any number of writes keeps everything in step.** -/
theorem writes (h : InStep contents s documents) (writes : List Write) :
    InStep ((Write.allNews s writes).foldl Event.record contents) (Write.allToStore s writes)
      ((writes.flatMap Write.operations).foldl Index.carryOut documents) := by
  induction writes generalizing contents s documents with
  | nil => exact h
  | cons w rest ih =>
    rw [Write.allNews, Write.allToStore_cons, List.flatMap_cons, List.foldl_append,
      List.foldl_append]
    exact ih (h.write w)

/-! ### The stored items, one by one -/

/-- Every entry of the store is the text of an item under its own reference. -/
theorem decode?_of_mem (h : InStep contents s documents) {entry : Reference × List Char}
    (hmem : entry ∈ s.items.entries) :
    ∃ item, Item.decode? entry.2 = some item ∧ contents entry.1 = some item ∧
      item.ref = entry.1 := by
  have hget := h.get entry.1
  rw [Store.get, h.ascending.get?_eq_some_iff.mpr hmem] at hget
  cases hdecode : Item.decode? entry.2 with
  | none => simp [hdecode] at hget
  | some item =>
    simp only [hdecode, Except.ok.injEq] at hget
    exact ⟨item, rfl, hget.symm, h.keyed _ _ hget.symm⟩

/-- The references of the stored items are the keys of the store. -/
theorem refs_stored (h : InStep contents s documents) :
    s.stored.map (·.ref) = s.items.keys := by
  rw [Store.stored, List.map_filterMap, Table.keys, ← List.filterMap_eq_map']
  refine List.filterMap_congr fun entry hmem => ?_
  obtain ⟨item, hdecode, -, href⟩ := h.decode?_of_mem hmem
  rw [hdecode, Option.map_some, href]

theorem nodup_refs_stored (h : InStep contents s documents) : (s.stored.map (·.ref)).Nodup := by
  rw [h.refs_stored]
  exact h.ascending.nodup_keys

/-- **The stored items are those that can be read**, each under its own reference. -/
theorem mem_stored (h : InStep contents s documents) {item : Item} :
    item ∈ s.stored ↔ contents item.ref = some item := by
  rw [Store.stored, List.mem_filterMap]
  constructor
  · rintro ⟨entry, hmem, hdecode⟩
    obtain ⟨item', hdecode', hcontents, href⟩ := h.decode?_of_mem hmem
    obtain rfl := Option.some.inj (hdecode.symm.trans hdecode')
    rw [href]
    exact hcontents
  · intro hcontents
    have hget := h.get item.ref
    rw [hcontents, Store.get] at hget
    split at hget
    · cases hget
    · next text htext =>
      cases hdecode : Item.decode? text with
      | none => simp [hdecode] at hget
      | some item' =>
        simp only [hdecode, Except.ok.injEq, Option.some.injEq] at hget
        subst hget
        exact ⟨_, h.ascending.get?_eq_some_iff.mp htext, hdecode⟩

/-- **The searchable documents are those of the stored items**, one for each. -/
theorem perm_documents (h : InStep contents s documents) :
    documents.Perm (s.stored.map Document.ofItem) := by
  have hrefs : (s.stored.map Document.ofItem).map (·.ref) = s.stored.map (·.ref) := by
    rw [List.map_map]
    rfl
  have hnodup : (s.stored.map Document.ofItem).Nodup := by
    refine List.Nodup.of_map (·.ref) ?_
    rw [hrefs]
    exact h.nodup_refs_stored
  refine (List.perm_ext_iff_of_nodup (List.Nodup.of_map _ h.distinct) hnodup).mpr fun d => ?_
  rw [h.reflects, List.mem_map]
  constructor
  · rintro ⟨ref, item, hitem, rfl⟩
    have href := h.keyed ref item hitem
    exact ⟨item, h.mem_stored.mpr (by rw [href]; exact hitem), rfl⟩
  · rintro ⟨item, hmem, rfl⟩
    exact ⟨item.ref, item, h.mem_stored.mp hmem, rfl⟩

/-- There are as many documents as the store counts items. -/
theorem length_documents (h : InStep contents s documents) : documents.length = s.count := by
  have hlength := congrArg List.length h.refs_stored
  rw [List.length_map] at hlength
  rw [h.perm_documents.length_eq, List.length_map, hlength, Table.keys, List.length_map]
  rfl

end InStep

end LiveSearch
