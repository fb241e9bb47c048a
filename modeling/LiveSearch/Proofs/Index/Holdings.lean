import LiveSearch.Proofs.Index.Combination
import Mathlib.Data.List.Nodup
import Mathlib.Data.List.Perm.Basic

/-!
# The items that an index holds

An index is filled item by item, and what has been added or deleted waits for a commit or is dropped
by a rollback (`Index.Act`). From outside this comes to two lists of items (`Holdings`): those that
can be searched now, and those that the next commit will make searchable. **The documents of an index
are those of the items it holds** (`Index.fits_acted`), one for each reference.

So a condition may be asked for the items that it returns (`Index.Returns`), without a word about
documents: it returns the items with a property if the answer is there and has one hit for each item
held that has the property, and no other hit.
-/

namespace LiveSearch

/-- **The items of an index.** -/
structure Holdings where
  /-- The items that can be searched. -/
  searchable : List Item := []
  /-- The items that can be searched after the next commit. -/
  upcoming : List Item := []

namespace Index

/-- **What is done to an index.** -/
inductive Act where
  /-- An item is added, or takes the place of the version that is there. -/
  | add (item : Item)
  /-- A reference is deleted. -/
  | delete (ref : Reference)
  /-- What has been added and deleted becomes visible. -/
  | commit
  /-- What has been added and deleted since the last commit is dropped. -/
  | rollback

/-- The index after an act. -/
def act (ix : Index) : Act → Index
  | .add item => ix.add item
  | .delete ref => ix.delete ref
  | .commit => ix.commit
  | .rollback => ix.rollback

/-- A new index after some acts. -/
def acted (acts : List Act) : Index :=
  acts.foldl act {}

end Index

namespace Holdings

/-- The items after an act. -/
def act (h : Holdings) : Index.Act → Holdings
  | .add item => { h with upcoming := h.upcoming.filter (·.ref ≠ item.ref) ++ [item] }
  | .delete ref => { h with upcoming := h.upcoming.filter (·.ref ≠ ref) }
  | .commit => { h with searchable := h.upcoming }
  | .rollback => { h with upcoming := h.searchable }

end Holdings

namespace Index

/-- **The items that an index holds** after some acts: those that the last commit has left. -/
def held (acts : List Act) : List Item :=
  (acts.foldl Holdings.act {}).searchable

variable {ix : Index} {h : Holdings}

/-! ### Documents of items -/

/-- **The index fits the items**: its documents are theirs, now and after the next commit, and no two
items have the same reference. -/
structure Fits (ix : Index) (h : Holdings) : Prop where
  searchable : ix.documents = h.searchable.map Document.ofItem
  upcoming : ix.pending.foldl carryOut ix.documents = h.upcoming.map Document.ofItem
  searchable_nodup : (h.searchable.map (·.ref)).Nodup
  upcoming_nodup : (h.upcoming.map (·.ref)).Nodup

theorem carryOut_delete (items : List Item) (ref : Reference) :
    carryOut (items.map Document.ofItem) (.delete ref) =
      (items.filter (·.ref ≠ ref)).map Document.ofItem := by
  rw [carryOut, List.filter_map]
  rfl

theorem fits_empty : Fits {} {} :=
  ⟨rfl, rfl, List.nodup_nil, List.nodup_nil⟩

theorem Fits.delete (hfits : ix.Fits h) (ref : Reference) :
    (ix.delete ref).Fits (h.act (.delete ref)) := by
  refine ⟨hfits.searchable, ?_, hfits.searchable_nodup, ?_⟩
  · show (ix.pending ++ [IndexOperation.delete ref]).foldl carryOut ix.documents = _
    rw [List.foldl_append, hfits.upcoming]
    exact carryOut_delete h.upcoming ref
  · exact hfits.upcoming_nodup.sublist ((List.filter_sublist).map _)

theorem Fits.add (hfits : ix.Fits h) (item : Item) : (ix.add item).Fits (h.act (.add item)) := by
  refine ⟨hfits.searchable, ?_, hfits.searchable_nodup, ?_⟩
  · show (ix.pending ++ replacement item).foldl carryOut ix.documents = _
    rw [List.foldl_append, hfits.upcoming, foldl_replacement]
    show carryOut (h.upcoming.map Document.ofItem) (.delete item.ref) ++ _ = _
    rw [carryOut_delete, Holdings.act, List.map_append]
    rfl
  · have hrest : ((h.upcoming.filter (·.ref ≠ item.ref)).map (·.ref)).Nodup :=
      hfits.upcoming_nodup.sublist ((List.filter_sublist).map _)
    rw [Holdings.act, List.map_append, List.map_singleton]
    refine hrest.append (List.nodup_singleton _) (List.disjoint_singleton.mpr ?_)
    rw [List.mem_map]
    rintro ⟨other, hother, href⟩
    exact of_decide_eq_true (List.mem_filter.mp hother).2 href

theorem Fits.commit (hfits : ix.Fits h) : ix.commit.Fits (h.act .commit) := by
  have hdocuments : ix.commit.documents = h.upcoming.map Document.ofItem :=
    ix.documents_commit.trans hfits.upcoming
  exact ⟨hdocuments, hdocuments, hfits.upcoming_nodup, hfits.upcoming_nodup⟩

theorem Fits.rollback (hfits : ix.Fits h) : ix.rollback.Fits (h.act .rollback) :=
  ⟨hfits.searchable, hfits.searchable, hfits.searchable_nodup, hfits.searchable_nodup⟩

theorem Fits.act (hfits : ix.Fits h) (a : Act) : (ix.act a).Fits (h.act a) := by
  cases a with
  | add item => exact hfits.add item
  | delete ref => exact hfits.delete ref
  | commit => exact hfits.commit
  | rollback => exact hfits.rollback

/-- **The documents of an index are those of the items it holds.** -/
theorem fits_acted (acts : List Act) : (acted acts).Fits (acts.foldl Holdings.act {}) := by
  induction acts using List.reverseRecOn with
  | nil => exact fits_empty
  | append_singleton acts a ih =>
    rw [acted, List.foldl_append, List.foldl_append]
    exact ih.act a

/-- An item that has just been added and committed is held. -/
theorem mem_held_of_added (acts : List Act) (item : Item) :
    item ∈ held (acts ++ [.add item, .commit]) := by
  rw [held, List.foldl_append]
  exact List.mem_append_right _ (List.mem_singleton_self item)

/-! ### The items that a condition returns -/

/-- **The hits list the items with a property**: these can be put in an order in which each of them
has its hit. -/
def ListsItems (hits : List RankedHit) (items : List Item) (P : Item → Prop) : Prop :=
  ∃ listed : List Item, List.Forall₂ (fun h item => h.Shows (Document.ofItem item)) hits listed ∧
    listed.Nodup ∧ ∀ item, item ∈ listed ↔ item ∈ items ∧ P item

/-- **A condition returns the items with a property**, of those that the index holds. -/
def Returns (acts : List Act) (c : Condition) (P : Item → Prop) : Prop :=
  ∀ matchAll, ∃ hits, (acted acts).search [c] matchAll = .ok hits ∧ ListsItems hits (held acts) P

section Listing

variable {hits : List RankedHit} {items : List Item} {item : Item} {P : Item → Prop}

/-- Where nothing has the property no hit is listed. -/
theorem ListsItems.eq_nil (hlists : ListsItems hits items P) (hP : ∀ item ∈ items, ¬P item) :
    hits = [] := by
  obtain ⟨listed, hshows, -, hlisted⟩ := hlists
  obtain rfl : listed = [] := by
    rw [List.eq_nil_iff_forall_not_mem]
    intro item hitem
    obtain ⟨hmem, hp⟩ := (hlisted item).mp hitem
    exact hP item hmem hp
  exact List.forall₂_nil_right_iff.mp hshows

/-- Where one item has the property and no other, there is one hit. -/
theorem ListsItems.eq_singleton (hlists : ListsItems hits items P) (hitem : item ∈ items)
    (hp : P item) (honly : ∀ other ∈ items, P other → other = item) :
    ∃ hit, hits = [hit] ∧ hit.Shows (Document.ofItem item) := by
  obtain ⟨listed, hshows, hnodup, hlisted⟩ := hlists
  have hperm : listed.Perm [item] := by
    rw [List.perm_ext_iff_of_nodup hnodup (List.nodup_singleton item)]
    intro other
    rw [hlisted, List.mem_singleton]
    exact ⟨fun h => honly other h.1 h.2, fun h => h ▸ ⟨hitem, hp⟩⟩
  obtain rfl := List.perm_singleton.mp hperm
  obtain ⟨hit, rest, hhit, hrest, rfl⟩ := List.forall₂_cons_right_iff.mp hshows
  obtain rfl := List.forall₂_nil_right_iff.mp hrest
  exact ⟨hit, rfl, hhit⟩

/-- Where an item has the property, some hit is listed. -/
theorem ListsItems.ne_nil (hlists : ListsItems hits items P) (hitem : item ∈ items) (hp : P item) :
    hits ≠ [] := by
  obtain ⟨listed, hshows, -, hlisted⟩ := hlists
  have hmem := (hlisted item).mpr ⟨hitem, hp⟩
  rintro rfl
  rw [List.forall₂_nil_left_iff.mp hshows] at hmem
  cases hmem

end Listing

/-- The state of an item is known. -/
theorem isSome_state?_ofItem (item : Item) : (Document.ofItem item).state?.isSome = true := by
  obtain ⟨ref, feed, guid, title, author, link, content, categories, labels, state⟩ := item
  cases state <;> rfl

/-- Hits that list documents list the items that the documents are made of. -/
theorem Lists.items_of_perm {hits : List RankedHit} {Q : Document → Bool} {P : Item → Prop}
    {items : List Item} (hdocuments : ix.documents.Perm (items.map Document.ofItem))
    (hnodup : items.Nodup) (hlists : ix.Lists hits Q)
    (hP : ∀ item ∈ items, Q (Document.ofItem item) = true ↔ P item) :
    ListsItems hits items P := by
  obtain ⟨documents, hshows, hperm⟩ := hlists
  let found := items.filter fun item => Q (Document.ofItem item)
  have hfound : ((items.map Document.ofItem).filter fun d => d.state?.isSome && Q d) =
      found.map Document.ofItem := by
    rw [List.filter_map]
    refine congrArg _ (List.filter_congr fun item _ => ?_)
    simp [isSome_state?_ofItem]
  replace hperm := hperm.trans (hdocuments.filter _)
  rw [hfound] at hperm
  -- the order of the documents is an order of the items
  obtain ⟨listed, hsame, hlisted⟩ : ∃ listed,
      List.Forall₂ (fun d item => d = Document.ofItem item) documents listed ∧
        listed.Perm found := by
    refine List.perm_comp_forall₂ hperm ?_
    rw [List.forall₂_map_left_iff, List.forall₂_same]
    exact fun item _ => rfl
  have hmade : documents = listed.map Document.ofItem := by
    rw [← List.forall₂_eq_eq_eq, List.forall₂_map_right_iff]
    exact hsame
  refine ⟨listed, ?_, hlisted.nodup_iff.mpr (hnodup.filter _), fun item => ?_⟩
  · rw [hmade, List.forall₂_map_right_iff] at hshows
    exact hshows
  · rw [hlisted.mem_iff, List.mem_filter]
    exact and_congr_right fun hitem => hP item hitem

/-- Hits that list documents of items list the items. -/
theorem Lists.items {hits : List RankedHit} {Q : Document → Bool} {P : Item → Prop}
    (hfits : ix.Fits h) (hlists : ix.Lists hits Q)
    (hP : ∀ item ∈ h.searchable, Q (Document.ofItem item) = true ↔ P item) :
    ListsItems hits h.searchable P :=
  hlists.items_of_perm (.of_eq hfits.searchable) (.of_map _ hfits.searchable_nodup) hP

/-- **A condition returns what its query finds.** -/
theorem returns_of_query {acts : List Act} {c : Condition} {q : Query} {P : Item → Prop}
    (husable : c.isUsable = true) (hq : Query.ofCondition c = .ok q)
    (hP : ∀ item, q.finds (Document.ofItem item) = true ↔ P item) : Returns acts c P := by
  intro matchAll
  have hquery : c.query = q := by rw [Condition.query, hq]
  obtain ⟨hits, hsearch, hlists⟩ :=
    (acted acts).answers_alone husable (hq.trans (congrArg _ hquery.symm)) matchAll
  refine ⟨hits, hsearch, hlists.items (fits_acted acts) fun item _ => ?_⟩
  rw [Condition.selects, hquery]
  exact hP item

/-- A text can be looked for unless it is blank. -/
theorem isUsable_onText (field : Field) (specifier : Specifier) (s : String) :
    (Condition.onText field specifier s).isUsable = !Text.isBlankText s := rfl

/-- **A condition without a value returns nothing.** -/
theorem search_of_not_isUsable (ix : Index) {c : Condition} (h : c.isUsable = false)
    (matchAll : Bool) : ix.search [c] matchAll = .ok [] := by
  have hquery : Query.ofConditions [c] matchAll =
      .ok (if matchAll then .allOf [] else .anyOf []) := by
    rw [Query.ofConditions, List.filter_cons_of_neg (by rw [h]; exact Bool.false_ne_true)]
    rfl
  obtain ⟨hits, hsearch, listed, hshows, hperm⟩ := ix.answers_of_query hquery
  have hnone : (if matchAll then Query.allOf [] else .anyOf []).finds = fun _ => false := by
    cases matchAll <;> rfl
  simp only [hnone, Bool.and_false, List.filter_false, List.perm_nil] at hperm
  subst hperm
  rw [hsearch, List.forall₂_nil_right_iff.mp hshows]

/-- So it returns the items with a property that none has. -/
theorem returns_of_not_isUsable {c : Condition} {P : Item → Prop} (acts : List Act)
    (h : c.isUsable = false) (hP : ∀ item, ¬P item) : Returns acts c P := by
  intro matchAll
  refine ⟨[], search_of_not_isUsable _ h matchAll, [], .nil, List.nodup_nil, fun item => ?_⟩
  exact iff_of_false List.not_mem_nil fun hitem => hP item hitem.2

/-- A condition on a text returns what its query finds, if a blank text is to return nothing. -/
theorem returns_onText {field : Field} {specifier : Specifier} {s : String} {q : Query}
    {P : Item → Prop} (acts : List Act) (hq : Query.ofCondition (.onText field specifier s) = .ok q)
    (hP : ∀ item, q.finds (Document.ofItem item) = true ↔ P item)
    (hnone : Text.isBlankText s = true → ∀ item, ¬P item) :
    Returns acts (.onText field specifier s) P := by
  cases hblank : Text.isBlankText s with
  | true =>
    have hunusable : (Condition.onText field specifier s).isUsable = false := by
      rw [isUsable_onText, hblank, Bool.not_true]
    exact returns_of_not_isUsable acts hunusable (hnone hblank)
  | false => exact returns_of_query (by rw [isUsable_onText, hblank, Bool.not_false]) hq hP

end Index

end LiveSearch
