import LiveSearch.Proofs.Item.RoundTrip
import LiveSearch.Proofs.Reconcile.LastWord
import LiveSearch.Proofs.Table
import LiveSearch.Store
import Mathlib.Data.List.Induction

/-!
# The store as a map

The store keeps texts, and looking an item up reads its text. Since the text of an item stands for
the item, a lookup finds what was written last under the reference (`Store.resolve_put`,
`Store.resolve_remove`).

What a store says of a reference is put in the terms of events: `Store.word` is what an event that
told the truth would ask for. A list of events **tells** of the change from one store to another
(`Store.Tells`) if the last word on a reference is the word of the new store, and silence means that
the lookup has not changed. The two writes of a corpus are told by the events that it announces for
them (`Store.tells_putAll`, `Store.tells_remove`).
-/

namespace LiveSearch

instance : Std.LawfulEqOrd Reference where
  compare_self := Nat.compare_eq_eq.mpr rfl
  eq_of_compare {a b} h := by
    have hnat : a.value.toNat = b.value.toNat := Nat.compare_eq_eq.mp h
    cases a
    cases b
    exact congrArg Reference.mk (UInt64.toNat_inj.mp hnat)

instance : Std.TransOrd Reference where
  eq_swap {a b} := by
    have hnat : compare a.value.toNat b.value.toNat = (compare b.value.toNat a.value.toNat).swap :=
      Std.OrientedCmp.eq_swap
    exact hnat
  isLE_trans {a b c} hab hbc := by
    have hle : a.value.toNat ≤ c.value.toNat :=
      Nat.le_trans (Nat.isLE_compare.mp hab) (Nat.isLE_compare.mp hbc)
    exact Nat.isLE_compare.mpr hle

namespace Store

variable {s t u : Store}

/-! ### Lookups -/

/-- **What is read is what was written last.** -/
theorem get_put (s : Store) (item : Item) (ref : Reference) :
    (s.put item).get ref = if item.ref = ref then .ok (some item) else s.get ref := by
  rw [get, get, put, putText, Table.get?_insert]
  by_cases h : item.ref = ref
  · simp [h, Item.decode?_encode]
  · simp [h]

theorem get_remove (s : Store) (ref ref' : Reference) :
    (s.remove ref).get ref' = if ref = ref' then .ok none else s.get ref' := by
  rw [get, get, remove, Table.get?_erase]
  by_cases h : ref = ref'
  · simp [h]
  · simp [h]

theorem contains_put {item : Item} {ref : Reference} :
    (s.put item).contains ref = true ↔ item.ref = ref ∨ s.contains ref = true := by
  rw [contains, contains, Table.contains_eq, Table.contains_eq, put, putText, Table.get?_insert]
  by_cases h : item.ref = ref <;> simp [h]

theorem contains_remove {ref ref' : Reference} :
    (s.remove ref).contains ref' = true ↔ ref ≠ ref' ∧ s.contains ref' = true := by
  rw [contains, contains, Table.contains_eq, Table.contains_eq, remove, Table.get?_erase]
  by_cases h : ref = ref' <;> simp [h]

theorem contains_putAll {items : List Item} {ref : Reference} :
    (s.putAll items).contains ref = true ↔
      (∃ item ∈ items, item.ref = ref) ∨ s.contains ref = true := by
  induction items generalizing s with
  | nil => simp [putAll]
  | cons item items ih =>
    show ((s.put item).putAll items).contains ref = true ↔ _
    rw [ih, contains_put, or_left_comm, ← or_assoc]
    simp only [List.mem_cons, exists_eq_or_imp]

/-- **A lookup finds what was written last.** -/
theorem resolve_put (s : Store) (item : Item) (ref : Reference) :
    (s.put item).resolve ref = if item.ref = ref then .ok item else s.resolve ref := by
  rw [resolve, resolve, get_put]
  by_cases h : item.ref = ref
  · simp [h]
  · simp [h]

theorem resolve_remove (s : Store) (ref ref' : Reference) :
    (s.remove ref).resolve ref' = if ref = ref' then .error (missing ref') else s.resolve ref' := by
  rw [resolve, resolve, get_remove]
  by_cases h : ref = ref'
  · simp [h]
  · simp [h]

/-- A lookup of what is not stored finds nothing. -/
theorem resolve_of_not_contains {ref : Reference} (h : s.contains ref = false) :
    s.resolve ref = .error (missing ref) := by
  rw [contains, Table.contains_eq, Option.isSome_eq_false_iff, Option.isNone_iff_eq_none] at h
  rw [resolve, get, h]

/-- **A faithful store**: a lookup finds the item of the reference, or says that there is none. -/
structure Faithful (s : Store) : Prop where
  /-- What is found is the item of the reference. -/
  found : ∀ ref item, s.resolve ref = .ok item → item.ref = ref
  /-- A lookup fails only where there is no item. -/
  failed : ∀ ref e, s.resolve ref = .error e → e.isNotFound = true

theorem faithful_empty : Faithful {} := by
  refine ⟨fun ref item h => ?_, fun ref e h => ?_⟩
  · cases h
  · cases h
    rfl

theorem Faithful.put (h : s.Faithful) (item : Item) : (s.put item).Faithful := by
  refine ⟨fun ref item' hr => ?_, fun ref e hr => ?_⟩ <;> rw [resolve_put] at hr <;> split at hr
  · next href => rw [← Except.ok.inj hr, href]
  · exact h.found ref item' hr
  · cases hr
  · exact h.failed ref e hr

theorem Faithful.putAll (h : s.Faithful) (items : List Item) : (s.putAll items).Faithful := by
  induction items generalizing s with
  | nil => exact h
  | cons item items ih => exact ih (h.put item)

theorem Faithful.remove (h : s.Faithful) (ref : Reference) : (s.remove ref).Faithful := by
  refine ⟨fun ref' item hr => ?_, fun ref' e hr => ?_⟩ <;> rw [resolve_remove] at hr <;>
    split at hr
  · cases hr
  · exact h.found ref' item hr
  · cases hr
    rfl
  · exact h.failed ref' e hr

/-! ### The word of a store -/

/-- **What a store says of a reference**, in the terms of events. -/
def word (s : Store) (ref : Reference) : Action :=
  match s.resolve ref with
  | .ok item => if item.isVisible then .refresh item else .remove
  | .error _ => .remove

/-- A store says to show an item exactly if a lookup finds the item, and it is visible. -/
theorem word_eq_refresh_iff {ref : Reference} {item : Item} :
    s.word ref = .refresh item ↔ s.resolve ref = .ok item ∧ item.isVisible = true := by
  rw [word]
  split
  · next found heq =>
    rw [heq]
    by_cases hv : found.isVisible
    · simp only [hv, if_true, Action.refresh.injEq, Except.ok.injEq]
      constructor
      · rintro rfl
        exact ⟨rfl, hv⟩
      · exact fun h => h.1
    · simp only [hv, Except.ok.injEq]
      constructor
      · intro h
        cases h
      · rintro ⟨rfl, hv'⟩
        exact absurd hv' hv
  · next e heq =>
    rw [heq]
    simp

theorem word_congr {ref : Reference} (h : t.resolve ref = s.resolve ref) :
    t.word ref = s.word ref := by
  rw [word, word, h]

/-- **Some events tell of the change from one store to another.** -/
structure Tells (events : List Event) (s t : Store) : Prop where
  /-- What the events do not speak of has not changed. -/
  silent : ∀ ref, Event.lastWord? events ref = none → t.resolve ref = s.resolve ref
  /-- The last word of the events is the word of the new store. -/
  spoken : ∀ ref a, Event.lastWord? events ref = some a → t.word ref = a

theorem tells_nil (s : Store) : Tells [] s s :=
  ⟨fun _ _ => rfl, by simp⟩

/-- Events that tell of two changes, one after the other, tell of both. -/
theorem Tells.append {xs ys : List Event} (h1 : Tells xs s t) (h2 : Tells ys t u) :
    Tells (xs ++ ys) s u := by
  constructor
  · intro ref hnone
    rw [Event.lastWord?_append, Option.or_eq_none_iff] at hnone
    rw [h2.silent ref hnone.1, h1.silent ref hnone.2]
  · intro ref a hsome
    rw [Event.lastWord?_append] at hsome
    -- the later events decide, unless they are silent
    cases hy : Event.lastWord? ys ref with
    | none =>
      rw [hy, Option.none_or] at hsome
      rw [word_congr (h2.silent ref hy)]
      exact h1.spoken ref a hsome
    | some b =>
      rw [hy, Option.some_or] at hsome
      rw [h2.spoken ref b hy]
      exact Option.some.inj hsome

theorem tells_put (s : Store) (item : Item) : Tells [Event.updated item] s (s.put item) := by
  constructor
  · intro ref hnone
    rw [resolve_put]
    by_cases href : item.ref = ref
    · simp [Event.lastWord?_singleton, Event.asks?, href] at hnone
    · rw [if_neg href]
  · intro ref a hsome
    by_cases href : item.ref = ref
    · simp only [Event.lastWord?_singleton, Event.asks?, Event.ref_updated, href, if_true,
        Event.action?_updated, Option.some.injEq] at hsome
      rw [word, resolve_put, if_pos href]
      exact hsome
    · simp [Event.lastWord?_singleton, Event.asks?, href] at hsome

/-- **Writing items is told by the events of their updates.** -/
theorem tells_putAll (s : Store) (items : List Item) :
    Tells (items.map Event.updated) s (s.putAll items) := by
  induction items using List.reverseRecOn with
  | nil => exact s.tells_nil
  | append_singleton items item ih =>
    have hput : s.putAll (items ++ [item]) = (s.putAll items).put item := by
      rw [putAll, List.foldl_append]
      rfl
    rw [List.map_append, hput]
    exact ih.append (tells_put _ item)

/-- **Removing an item is told by its deletion**, if it was there, and by silence otherwise. -/
theorem tells_remove (s : Store) (ref : Reference) :
    Tells (if s.contains ref then [Event.deleted ref] else []) s (s.remove ref) := by
  by_cases hin : s.contains ref
  · rw [if_pos hin]
    constructor
    · intro ref' hnone
      rw [resolve_remove]
      by_cases href : ref = ref'
      · simp [Event.lastWord?_singleton, Event.asks?, href] at hnone
      · rw [if_neg href]
    · intro ref' a hsome
      by_cases href : ref = ref'
      · obtain rfl : Action.remove = a := by
          simpa [Event.lastWord?_singleton, Event.asks?, href] using hsome
        rw [word, resolve_remove, if_pos href]
      · simp [Event.lastWord?_singleton, Event.asks?, href] at hsome
  · rw [if_neg hin]
    refine ⟨fun ref' _ => ?_, by simp⟩
    -- what is not there can be removed without anyone noticing
    rw [resolve_remove]
    by_cases href : ref = ref'
    · rw [if_pos href, ← href, resolve_of_not_contains (by simpa using hin)]
    · rw [if_neg href]

end Store

end LiveSearch
