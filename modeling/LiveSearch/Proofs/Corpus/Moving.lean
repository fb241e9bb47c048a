import LiveSearch.Proofs.Corpus.Deeds
import LiveSearch.Proofs.Corpus.Edits
import Mathlib.Data.List.Dedup

/-!
# Moving items to a state

Moving items to a state is done for all of them or for none. All lookups come before the first
write, so a reference without an item fails the whole (`Corpus.moved_cases`), and a reference that
is listed twice is looked up twice in the same store: both lookups find its item in the old state,
and its new version is written, announced and counted as often as the reference is listed.

The store cannot tell the difference, since the last write under a reference decides and all of them
are the same (`Corpus.last?_moving`). The number that is returned can: it is the number of the items
that have changed only if none of them is listed more than once (`Corpus.Moves.length_eq_iff`).
-/

namespace LiveSearch

namespace Store

variable {s : Store} {ref : Reference} {state : State}

/-! ### Lookups in a faithful store -/

/-- **A faithful store** has an item of the reference, or nothing at all. -/
theorem Faithful.lookup (h : s.Faithful) (ref : Reference) :
    (s.contains ref = true ∧ ∃ item, s.resolve ref = .ok item ∧ s.get ref = .ok (some item)) ∨
      (s.contains ref = false ∧ s.resolve ref = .error (missing ref) ∧ s.get ref = .ok none) := by
  by_cases hin : s.contains ref = true
  · refine Or.inl ⟨hin, ?_⟩
    rw [contains, Table.contains_eq] at hin
    obtain ⟨text, htext⟩ := Option.isSome_iff_exists.mp hin
    rcases hdecode : Item.decode? text with _ | item
    -- a text that is no item would make the lookup fail for another reason
    · have hget : s.get ref = .error .malformedJson := by simp only [get, htext, hdecode]
      have hnot := h.failed ref .malformedJson (by rw [resolve, hget])
      cases hnot
    · have hget : s.get ref = .ok (some item) := by simp only [get, htext, hdecode]
      exact ⟨item, by rw [resolve, hget], hget⟩
  · have hout : s.contains ref = false := by simpa using hin
    refine Or.inr ⟨hout, resolve_of_not_contains hout, ?_⟩
    rw [contains, Table.contains_eq, Option.isSome_eq_false_iff, Option.isNone_iff_eq_none] at hout
    rw [get, hout]

/-! ### The items that have to move -/

/-- The new version of the item of a reference, if it is stored in another state. -/
def moving? (s : Store) (state : State) (ref : Reference) : Option Item :=
  match s.resolve ref with
  | .ok item => if item.state = state then none else some { item with state }
  | .error _ => none

theorem moving?_eq_some {v : Item} (h : s.moving? state ref = some v) :
    ∃ item, s.resolve ref = .ok item ∧ item.state ≠ state ∧ v = { item with state } := by
  rw [moving?] at h
  split at h
  · next item hitem =>
    split at h
    · cases h
    · next hne => exact ⟨item, hitem, hne, (Option.some.inj h).symm⟩
  · cases h

theorem ref_of_moving? (hs : s.Faithful) {v : Item} (h : s.moving? state ref = some v) :
    v.ref = ref := by
  obtain ⟨item, hitem, -, rfl⟩ := moving?_eq_some h
  exact hs.found ref item hitem

/-- What is collected for one reference is its new version, or nothing. -/
theorem collect_eq {item : Item} (h : s.resolve ref = .ok item) :
    Change.collect state item [] = (s.moving? state ref).toList := by
  simp only [Change.collect, moving?, h]
  split <;> rfl

/-- The first of the new versions for a reference is the one for it, if the reference is listed. -/
theorem find?_moving (hs : s.Faithful) (state : State) (refs : List Reference) (ref : Reference) :
    (refs.filterMap (s.moving? state)).find? (·.ref = ref) =
      if ref ∈ refs then s.moving? state ref else none := by
  induction refs with
  | nil => rfl
  | cons first rest ih =>
    rcases hfirst : s.moving? state first with _ | v
    · rw [List.filterMap_cons_none hfirst, ih]
      by_cases heq : ref = first
      · subst heq
        simp [hfirst]
      · simp [heq]
    · have hv : v.ref = first := ref_of_moving? hs hfirst
      rw [List.filterMap_cons_some hfirst, List.find?_cons]
      by_cases heq : ref = first
      · subst heq
        simp [hv, hfirst]
      · simp only [hv, Ne.symm heq, decide_false, ih, List.mem_cons, heq, false_or]

/-- The new versions are those of the listed items that have to move. -/
theorem refs_moving (hs : s.Faithful) (state : State) (refs : List Reference) :
    (refs.filterMap (s.moving? state)).map (·.ref) =
      refs.filter fun ref => (s.moving? state ref).isSome := by
  induction refs with
  | nil => rfl
  | cons first rest ih =>
    rcases hfirst : s.moving? state first with _ | v
    · rw [List.filterMap_cons_none hfirst, ih, List.filter_cons_of_neg (by simp [hfirst])]
    · rw [List.filterMap_cons_some hfirst, List.map_cons, ih, ref_of_moving? hs hfirst,
        List.filter_cons_of_pos (by simp [hfirst])]

/-- **A listed item in the state**: its new version if it has to move, and itself otherwise. -/
theorem map_get_eq (hs : s.Faithful) (state : State) (ref : Reference) :
    (s.get ref).map (Option.map fun item => { item with state }) =
      ((s.moving? state ref).map fun v => .ok (some v)).getD (s.get ref) := by
  rcases hs.lookup ref with ⟨-, item, hitem, hget⟩ | ⟨-, hnone, hget⟩
  · rw [hget, moving?, hitem]
    by_cases hstate : item.state = state
    · subst hstate
      simp [Except.map]
    · simp [Except.map, hstate]
  · rw [hget, moving?, hnone]
    rfl

/-- The new version of an item is another one. -/
theorem get_ne_of_moving? (hs : s.Faithful) {v : Item} (h : s.moving? state ref = some v) :
    s.get ref ≠ .ok (some v) := by
  obtain ⟨item, hitem, hne, rfl⟩ := moving?_eq_some h
  rcases hs.lookup ref with ⟨-, item', hitem', hget⟩ | ⟨-, hnone, -⟩
  · obtain rfl := Except.ok.inj (hitem.symm.trans hitem')
    rw [hget]
    intro hsame
    exact hne (congrArg Item.state (Option.some.inj (Except.ok.inj hsame)))
  · rw [hnone] at hitem
    cases hitem

end Store

namespace Corpus

variable {c : Corpus} {refs : List Reference} {state : State}

/-! ### All or none -/

/-- **All lookups come first**: they give the new versions of all items that have to move, as often
as they are listed; or one of them fails, and with it the whole. -/
theorem moved_cases (s : Store) (state : State) (refs : List Reference) :
    ((∀ ref ∈ refs, ∃ item, s.resolve ref = .ok item) ∧
        moved s state refs = .ok (refs.filterMap (s.moving? state))) ∨
      ∃ ref ∈ refs, ∃ e, s.resolve ref = .error e ∧ moved s state refs = .error e := by
  induction refs with
  | nil => exact Or.inl ⟨fun ref hmem => (List.not_mem_nil hmem).elim, rfl⟩
  | cons ref rest ih =>
    rw [moved]
    rcases hr : s.resolve ref with e | item
    · exact Or.inr ⟨ref, by simp, e, hr, rfl⟩
    rcases ih with ⟨hall, heq⟩ | ⟨other, hmem, e, hother, heq⟩
    · refine Or.inl ⟨List.forall_mem_cons.mpr ⟨⟨item, hr⟩, hall⟩, ?_⟩
      show (moved s state rest).map (fun later => Change.collect state item [] ++ later) = _
      rw [heq, Store.collect_eq hr, List.filterMap_cons]
      rcases s.moving? state ref with _ | v <;> rfl
    · refine Or.inr ⟨other, List.mem_cons_of_mem _ hmem, e, hother, ?_⟩
      show (moved s state rest).map (fun later => Change.collect state item [] ++ later) = _
      rw [heq]
      rfl

/-- **What moving items to a state does**, where `items` are the new versions that are written, in
the order of the list. -/
structure Moves (c after : Corpus) (refs : List Reference) (state : State) (items : List Item) :
    Prop where
  /-- Every listed item is stored in the state and otherwise as it was, and every other item is left
  alone. -/
  stored : ∀ ref, after.store.get ref =
    (c.store.get ref).map (Option.map fun item => if ref ∈ refs then { item with state } else item)
  /-- An item that has changed is found in its new version alone, and the documents of the others
  are left alone. -/
  indexed : ∀ ref, after.index.documents.filter (·.ref = ref) =
    ((items.find? (·.ref = ref)).map fun item => [Document.ofItem item]).getD
      (c.index.documents.filter (·.ref = ref))
  /-- The new versions are announced in one batch, unless there are none. -/
  announced : ∀ id, c.bus.Listens id →
    after.bus.queue id = c.bus.queue id ++ if items.isEmpty then [] else [items.map Event.updated]
  /-- What is announced is what is stored. -/
  current : ∀ item ∈ items, after.store.get item.ref = .ok (some item)
  /-- An item that has changed is announced as often as it is listed. -/
  often : ∀ ref, after.store.get ref ≠ c.store.get ref →
    (items.map (·.ref)).count ref = refs.count ref
  /-- An item that has not changed is not announced. -/
  silent : ∀ ref, after.store.get ref = c.store.get ref → ref ∉ items.map (·.ref)

/-- The last write for a reference is that of its new version, if it is listed and has to move. -/
theorem last?_moving (hs : c.store.Faithful) (refs : List Reference) (state : State)
    (ref : Reference) :
    Write.last? ((refs.filterMap (c.store.moving? state)).map .put) ref =
      (if ref ∈ refs then c.store.moving? state ref else none).map .put := by
  have hfound := Store.find?_moving hs state refs.reverse ref
  rw [List.filterMap_reverse] at hfound
  rw [Write.last?, ← List.map_reverse, List.find?_map]
  simp only [List.mem_reverse] at hfound
  rw [← hfound]
  rfl

/-- **The new versions are written**, and this does what moving the items is to do. -/
theorem moves_of_carried {after : Corpus} (hs : c.store.Faithful)
    (hcarried : Carried c after ((refs.filterMap (c.store.moving? state)).map .put)) :
    Moves c after refs state (refs.filterMap (c.store.moving? state)) := by
  have hget : ∀ ref, after.store.get ref =
      ((if ref ∈ refs then c.store.moving? state ref else none).map fun v => .ok (some v)).getD
        (c.store.get ref) := by
    intro ref
    rw [hcarried.store, Write.get_allToStore, last?_moving hs, Option.map_map]
    rfl
  have hmoved : ∀ {ref v}, ref ∈ refs → c.store.moving? state ref = some v →
      after.store.get ref = .ok (some v) := by
    intro ref v hmem hv
    rw [hget, if_pos hmem, hv]
    rfl
  have hchanged : ∀ ref, after.store.get ref ≠ c.store.get ref ↔
      ref ∈ refs ∧ (c.store.moving? state ref).isSome = true := by
    intro ref
    constructor
    · intro hne
      by_contra hnot
      refine hne ?_
      rw [hget]
      split
      · next hmem =>
        have hnone : c.store.moving? state ref = none := by simpa [hmem] using hnot
        rw [hnone]
        rfl
      · rfl
    · rintro ⟨hmem, hsome⟩
      obtain ⟨v, hv⟩ := Option.isSome_iff_exists.mp hsome
      rw [hmoved hmem hv]
      exact (Store.get_ne_of_moving? hs hv).symm
  refine ⟨fun ref => ?stored, fun ref => ?indexed, fun id hlistens => ?announced,
    fun item hitem => ?current, fun ref hne => ?often, fun ref hsame => ?silent⟩
  case stored =>
    rw [hget]
    split
    · next hmem => rw [← Store.map_get_eq hs]
    · rcases c.store.get ref with e | _ | item <;> rfl
  case indexed =>
    rw [hcarried.documents, Write.documents_operations, last?_moving hs, Store.find?_moving hs,
      Option.map_map]
    rfl
  case announced =>
    rw [hcarried.bus, Bus.queue_publish hlistens, Write.allNews_puts, List.isEmpty_map]
  case current =>
    obtain ⟨ref, hmem, hv⟩ := List.mem_filterMap.mp hitem
    rw [Store.ref_of_moving? hs hv]
    exact hmoved hmem hv
  case often =>
    rw [Store.refs_moving hs]
    exact List.count_filter ((hchanged ref).mp hne).2
  case silent =>
    rw [Store.refs_moving hs, List.mem_filter]
    exact fun hin => (hchanged ref).mpr hin hsame

/-! ### How many have moved -/

/-- What is announced is what has changed. -/
theorem Moves.mem_refs_iff {after : Corpus} {items : List Item}
    (h : Moves c after refs state items) (ref : Reference) :
    ref ∈ items.map (·.ref) ↔ after.store.get ref ≠ c.store.get ref := by
  constructor
  · exact fun hin hsame => h.silent ref hsame hin
  · intro hne
    have hlisted : ref ∈ refs := by
      by_contra hout
      refine hne ?_
      rw [h.stored]
      simp only [if_neg hout]
      rcases c.store.get ref with e | _ | item <;> rfl
    rw [← List.count_pos_iff, h.often ref hne]
    exact List.count_pos_iff.mpr hlisted

/-- **As many announcements as items have changed**: this is so exactly if none of these items is
listed more than once. -/
theorem Moves.length_eq_iff {after : Corpus} {items : List Item}
    (h : Moves c after refs state items) {changed : List Reference} (hnodup : changed.Nodup)
    (hchanged : ∀ ref, ref ∈ changed ↔ after.store.get ref ≠ c.store.get ref) :
    items.length = changed.length ↔ ∀ ref ∈ changed, refs.count ref = 1 := by
  have hmem : ∀ ref, ref ∈ items.map (·.ref) ↔ ref ∈ changed := by
    intro ref
    rw [h.mem_refs_iff, hchanged]
  have hperm : changed.Perm (items.map (·.ref)).dedup := by
    rw [List.perm_ext_iff_of_nodup hnodup (List.nodup_dedup _)]
    intro ref
    rw [List.mem_dedup, hmem]
  have honce : (items.map (·.ref)).Nodup ↔ ∀ ref ∈ changed, refs.count ref = 1 := by
    rw [List.nodup_iff_count_eq_one]
    refine forall_congr' fun ref => ?_
    rw [hmem]
    refine forall_congr' fun hin => ?_
    rw [h.often ref ((hchanged ref).mp hin)]
  rw [← honce, hperm.length_eq, ← List.length_map (·.ref)]
  constructor
  · intro hlength
    rw [← List.dedup_eq_self]
    exact (List.dedup_sublist _).eq_of_length hlength.symm
  · intro hdistinct
    rw [List.dedup_eq_self.mpr hdistinct]

/-- **Moving items to a state is done for all of them or for none.** If a listed reference has no
item, the call fails with such a reference and nothing is done. Otherwise each listed item is in the
state and every other one is left alone, and the new versions of those that have changed are
announced in one batch, and counted, as often as their references are listed. So the number that is
returned is the number of the items that have changed exactly if none of these is listed more than
once. -/
theorem setState_moves (hfaithful : c.store.Faithful) (hpending : c.index.pending = [])
    (refs : List Reference) (state : State) :
    ((∃ ref ∈ refs, c.store.contains ref = false) →
      ∃ ref ∈ refs, c.store.contains ref = false ∧
        c.setState refs state = (c, .error (Store.missing ref))) ∧
    ((∀ ref ∈ refs, c.store.contains ref = true) →
      ∃ items, (c.setState refs state).2 = .ok items.length ∧
        Moves c (c.setState refs state).1 refs state items ∧
        ∀ changed : List Reference, changed.Nodup →
          (∀ ref, ref ∈ changed ↔
            (c.setState refs state).1.store.get ref ≠ c.store.get ref) →
          (items.length = changed.length ↔ ∀ ref ∈ changed, refs.count ref = 1)) := by
  have hperform := c.perform_setState refs state
  rcases moved_cases c.store state refs with ⟨hall, hmoved⟩ | ⟨ref, hmem, e, hfailed, hmoved⟩
  · refine ⟨?missing, fun _ => ?moved⟩
    case missing =>
      rintro ⟨ref, hmem, hout⟩
      obtain ⟨item, hitem⟩ := hall ref hmem
      rw [Store.resolve_of_not_contains hout] at hitem
      cases hitem
    case moved =>
      obtain ⟨hcarried, hresult⟩ := carried_addItems hpending
        (refs.filterMap (c.store.moving? state))
      have hmoves := moves_of_carried hfaithful hcarried
      rw [setState, hperform, hmoved]
      exact ⟨_, hresult, hmoves,
        fun changed hnodup hchanged => hmoves.length_eq_iff hnodup hchanged⟩
  · -- the lookup that has failed is one of a reference without an item
    rcases hfaithful.lookup ref with ⟨-, item, hitem, -⟩ | ⟨hout, hmissing, -⟩
    · rw [hitem] at hfailed
      cases hfailed
    obtain rfl := Except.error.inj (hmissing.symm.trans hfailed)
    refine ⟨fun _ => ⟨ref, hmem, hout, ?_⟩, fun hall => ?_⟩
    · rw [setState, hperform, hmoved]
    · rw [hall ref hmem] at hout
      cases hout

/-- Of two items one is in the state already, and the other is listed twice: it is the only one that
changes, but it is announced twice in one batch, and counted twice. A list with an unknown reference
fails as a whole. -/
theorem setState_moves_of_repetition :
    let bus := (Bus.subscribe {} .news).1
    let unread : Item :=
      { ref := ⟨1⟩, feed := "f", guid := "a", title := "A", state := .unread, received := 5 }
    let settled : Item :=
      { ref := ⟨2⟩, feed := "f", guid := "b", title := "B", state := .read, received := 6 }
    let c := (perform { bus } (Edit.add [unread, settled]).change).1
    let after := (c.setState [⟨1⟩, ⟨2⟩, ⟨1⟩] .read).1
    (c.store.Faithful ∧ c.index.pending = []) ∧
      (∃ items, (c.setState [⟨1⟩, ⟨2⟩, ⟨1⟩] .read).2 = .ok 2 ∧ items.length = 2 ∧
        (∀ item ∈ items, item.ref = ⟨1⟩) ∧
        after.bus.queue 0 = c.bus.queue 0 ++ [items.map Event.updated] ∧
        Moves c after [⟨1⟩, ⟨2⟩, ⟨1⟩] .read items) ∧
      ∃ ref, c.setState [⟨1⟩, ⟨3⟩] .read = (c, .error (Store.missing ref)) := by
  intro bus unread settled c after
  have hlistens : c.bus.Listens 0 :=
    (Bus.listens_subscribe Bus.numbered_empty).publish .news _
  have hgrown : c.Grown := .edit (.add [unread, settled]) (.subscribe .news .empty)
  obtain ⟨⟨hfaithful, hpending, -⟩, -⟩ := hgrown.steady
  obtain ⟨-, hstored⟩ := setState_moves hfaithful hpending [⟨1⟩, ⟨2⟩, ⟨1⟩] .read
  obtain ⟨items, hresult, hmoves, -⟩ := hstored (by decide +kernel)
  have htwo : (c.setState [⟨1⟩, ⟨2⟩, ⟨1⟩] .read).2 = .ok 2 := by decide +kernel
  have hlength : items.length = 2 := Except.ok.inj (hresult.symm.trans htwo)
  have hannounced := hmoves.announced 0 hlistens
  rw [if_neg (by simp [List.isEmpty_iff, ← List.length_eq_zero_iff, hlength])] at hannounced
  have hsettled : after.store.get ⟨2⟩ = c.store.get ⟨2⟩ := by decide +kernel
  refine ⟨⟨hfaithful, hpending⟩,
    ⟨items, htwo, hlength, fun item hitem => ?_, hannounced, hmoves⟩, ?_⟩
  · have hin : item.ref ∈ items.map (·.ref) := List.mem_map_of_mem hitem
    have hchanged := (hmoves.mem_refs_iff item.ref).mp hin
    have hlisted := List.count_pos_iff.mpr hin
    rw [hmoves.often item.ref hchanged, List.count_pos_iff] at hlisted
    by_contra hother
    have hsecond : item.ref = ⟨2⟩ := by simpa [hother] using hlisted
    rw [hsecond] at hchanged
    exact hchanged hsettled
  · obtain ⟨hmissing, -⟩ := setState_moves hfaithful hpending [⟨1⟩, ⟨3⟩] .read
    obtain ⟨ref, -, -, hfails⟩ := hmissing ⟨⟨3⟩, by simp, by decide +kernel⟩
    exact ⟨ref, hfails⟩

end Corpus

end LiveSearch
