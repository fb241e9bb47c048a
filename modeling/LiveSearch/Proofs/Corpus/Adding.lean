import LiveSearch.Proofs.Corpus.Deeds
import LiveSearch.Proofs.Corpus.Edits

/-!
# Adding items

Items are added one after the other, and a later one takes the place of an earlier one with the same
reference, in the store as in the index. What this comes to can be said of one reference at a time
(`Corpus.Adds`): **the last item with the reference counts**, and a reference that does not occur is
left alone. So nothing changes if the same items are added once more (`Corpus.Adds.again`).
-/

namespace LiveSearch

namespace Write

variable {items behind : List Item} {item : Item} {ref : Reference}

/-! ### The last write of a list of items -/

theorem last?_puts_eq_none (h : ∀ item ∈ items, item.ref ≠ ref) :
    last? (items.map .put) ref = none := by
  rw [← Option.not_isSome_iff_eq_none, isSome_last?, List.any_map, List.any_eq_true]
  rintro ⟨item, hmem, href⟩
  exact h item hmem (of_decide_eq_true href)

theorem last?_puts_eq_some (before : List Item) (h : ∀ other ∈ behind, other.ref ≠ item.ref) :
    last? ((before ++ item :: behind).map .put) item.ref = some (.put item) := by
  have hone : last? [.put item] item.ref = some (.put item) := by simp [last?, Write.ref]
  rw [List.map_append, List.map_cons, ← List.singleton_append, last?_append, last?_append,
    last?_puts_eq_none h, Option.none_or, hone, Option.some_or]

/-- The text under a reference after a write. -/
theorem text_toStore (s : Store) (w : Write) (ref : Reference) :
    (w.toStore s).items.get? ref =
      if w.ref = ref then w.left.map Item.encode else s.items.get? ref := by
  cases w with
  | put item => exact Table.get?_insert _ _ _ _
  | remove gone => exact Table.get?_erase _ _ _

/-- **The text under a reference** is that of what the last write has left. -/
theorem text_allToStore (s : Store) (writes : List Write) (ref : Reference) :
    (allToStore s writes).items.get? ref =
      ((last? writes ref).map fun w => w.left.map Item.encode).getD (s.items.get? ref) :=
  foldl_of_last (·.items.get? ref) (·.ref = ref) (·.left.map Item.encode)
    (fun s w _ => text_toStore s w ref) s

/-- Writes have nothing to do with the settings. -/
theorem settings_allToStore (s : Store) (writes : List Write) :
    (allToStore s writes).settings = s.settings := by
  induction writes generalizing s with
  | nil => rfl
  | cons w rest ih =>
    rw [allToStore_cons, ih]
    cases w <;> rfl

end Write

namespace Corpus

variable {c after later : Corpus} {items : List Item} {ref : Reference}

/-- **What adding items does.** -/
structure Adds (c after : Corpus) (items : List Item) : Prop where
  /-- The last item with its reference is stored, and it is found in this version alone. -/
  last : ∀ before item behind, items = before ++ item :: behind →
    (∀ other ∈ behind, other.ref ≠ item.ref) →
      after.store.get item.ref = .ok (some item) ∧
        after.index.documents.filter (·.ref = item.ref) = [Document.ofItem item]
  /-- The text and the documents of every other reference are left alone. -/
  others : ∀ ref, (∀ item ∈ items, item.ref ≠ ref) →
    after.store.items.get? ref = c.store.items.get? ref ∧
      after.index.documents.filter (·.ref = ref) = c.index.documents.filter (·.ref = ref)
  /-- The settings are left alone. -/
  settings : after.store.settings = c.store.settings
  /-- The index is committed. -/
  pending : after.index.pending = []

theorem adds_of_carried (h : Carried c after (items.map .put)) : Adds c after items := by
  have hdocuments : ∀ ref, after.index.documents.filter (·.ref = ref) =
      ((Write.last? (items.map .put) ref).map fun w => Index.documentsFor w.left).getD
        (c.index.documents.filter (·.ref = ref)) := by
    intro ref
    rw [h.documents, Write.documents_operations]
  refine ⟨?last, ?others, ?settings, h.pending⟩
  case last =>
    rintro before item behind rfl hlast
    have hwrite := Write.last?_puts_eq_some before hlast
    rw [h.store, Write.get_allToStore, hdocuments, hwrite]
    exact ⟨rfl, rfl⟩
  case others =>
    intro ref hother
    rw [h.store, Write.text_allToStore, hdocuments, Write.last?_puts_eq_none hother]
    exact ⟨rfl, rfl⟩
  case settings => rw [h.store, Write.settings_allToStore]

/-- **Items are added.** -/
theorem adds_addItems (h : c.index.pending = []) (items : List Item) :
    Adds c (c.addItems items).1 items ∧ (c.addItems items).2 = .ok items.length := by
  obtain ⟨hcarried, hresult⟩ := carried_addItems h items
  exact ⟨adds_of_carried hcarried, hresult⟩

/-! ### Adding once more -/

/-- Of the items with a reference one is the last. -/
theorem exists_last (h : ∃ item ∈ items, item.ref = ref) :
    ∃ before item behind, items = before ++ item :: behind ∧ item.ref = ref ∧
      ∀ other ∈ behind, other.ref ≠ ref := by
  induction items with
  | nil => exact absurd h (by simp)
  | cons first rest ih =>
    by_cases hrest : ∃ item ∈ rest, item.ref = ref
    · obtain ⟨before, item, behind, rfl, href, hlast⟩ := ih hrest
      exact ⟨first :: before, item, behind, rfl, href, hlast⟩
    · obtain ⟨item, hmem, href⟩ := h
      rcases List.mem_cons.mp hmem with rfl | hin
      · exact ⟨[], item, rest, rfl, href, fun other hother heq => hrest ⟨other, hother, heq⟩⟩
      · exact absurd ⟨item, hin, href⟩ hrest

/-- Documents are the same, each as often, if they are so for each reference. -/
theorem perm_of_filter_ref {xs ys : List Document}
    (h : ∀ ref, xs.filter (·.ref = ref) = ys.filter (·.ref = ref)) : xs.Perm ys := by
  rw [List.perm_iff_count]
  intro d
  have hcount := congrArg (List.count d) (h d.ref)
  rwa [List.count_filter (by simp), List.count_filter (by simp)] at hcount

/-- **Adding the same items once more** changes neither an item nor a document. -/
theorem Adds.again (h : Adds c after items) (h' : Adds after later items) :
    (∀ ref, later.store.get ref = after.store.get ref) ∧
      later.index.documents.Perm after.index.documents := by
  have hsame : ∀ ref, later.store.get ref = after.store.get ref ∧
      later.index.documents.filter (·.ref = ref) = after.index.documents.filter (·.ref = ref) := by
    intro ref
    by_cases hin : ∃ item ∈ items, item.ref = ref
    · obtain ⟨before, item, behind, hitems, rfl, hlast⟩ := exists_last hin
      obtain ⟨hget, hfilter⟩ := h.last before item behind hitems hlast
      obtain ⟨hget', hfilter'⟩ := h'.last before item behind hitems hlast
      exact ⟨hget'.trans hget.symm, hfilter'.trans hfilter.symm⟩
    · obtain ⟨htext, hfilter⟩ := h'.others ref fun item hmem href => hin ⟨item, hmem, href⟩
      exact ⟨by rw [Store.get, Store.get, htext], hfilter⟩
  exact ⟨fun ref => (hsame ref).1, perm_of_filter_ref fun ref => (hsame ref).2⟩

end Corpus

end LiveSearch
