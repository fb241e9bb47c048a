import LiveSearch.Session.Delivery
import Mathlib.Data.List.Basic

/-!
# What looked-up items do to a result set

Looked-up items are attached to the hits that carry none; a hit that carries an item keeps it. So a
hit after a lookup is what it was, or it carried nothing and now carries one of the items, under its
own reference (`Session.attachedBy_cases`). Nothing else about it changes.

Hits whose items do not exist go at the same time. Both together are said in one step by
`Hit.lookedUp`: the first item for the reference of a hit counts, further ones and those for other
references do not.
-/

namespace LiveSearch

namespace Hit

/-- **The hit after a lookup** has come back: gone if its item does not exist, and otherwise with
the first item that was found for it, unless it carried one already. -/
def lookedUp (items : List Item) (missing : List Reference) (h : Hit) : Option Hit :=
  if h.ref ∈ missing then none
  else some { h with item := h.item.or (items.find? (·.ref = h.ref)) }

variable {items : List Item} {missing : List Reference} {h h' : Hit}

theorem lookedUp_of_mem (hmem : h.ref ∈ missing) : h.lookedUp items missing = none :=
  if_pos hmem

theorem lookedUp_of_notMem (hnot : h.ref ∉ missing) : h.lookedUp items missing =
    some { h with item := h.item.or (items.find? (·.ref = h.ref)) } :=
  if_neg hnot

theorem eq_of_lookedUp (hl : h.lookedUp items missing = some h') : h.ref ∉ missing ∧
    h' = { h with item := h.item.or (items.find? (·.ref = h.ref)) } := by
  rw [lookedUp] at hl
  split at hl
  · cases hl
  · next hnot => exact ⟨hnot, (Option.some.inj hl).symm⟩

theorem ref_of_lookedUp (hl : h.lookedUp items missing = some h') : h'.ref = h.ref := by
  rw [(eq_of_lookedUp hl).2]

theorem state_of_lookedUp (hl : h.lookedUp items missing = some h') : h'.state = h.state := by
  rw [(eq_of_lookedUp hl).2]

end Hit

namespace Session

/-- The hit after the items of a list have been attached. -/
def attachedBy (items : List Item) (h : Hit) : Hit :=
  items.foldl (fun h item => if h.ref = item.ref then h.attached item else h) h

theorem attachAll_fst (items : List Item) (rs : ResultSet) :
    (attachAll items rs).1 = { rs with hits := rs.hits.map (attachedBy items) } := by
  induction items generalizing rs with
  | nil => exact congrArg (fun hits => { rs with hits }) (List.map_id' rs.hits).symm
  | cons item items ih =>
    rw [attachAll, ih]
    simp only [ResultSet.attach, ResultSet.modify, List.map_map]
    rfl

theorem attached_of_none {h : Hit} (hn : h.item = none) (item : Item) :
    h.attached item = { h with item := some item } := by
  rw [Hit.attached, hn]
  rfl

theorem attached_of_some {h : Hit} {v : Item} (hv : h.item = some v) (item : Item) :
    h.attached item = h := by
  rw [Hit.attached, hv]
  exact congrArg (fun item => { h with item }) hv.symm

/-- A hit that carries an item keeps it. -/
theorem attachedBy_of_some (items : List Item) {h : Hit} {v : Item} (hv : h.item = some v) :
    attachedBy items h = h := by
  induction items with
  | nil => rfl
  | cons item items ih =>
    rw [attachedBy, List.foldl_cons, attached_of_some hv, ite_self]
    exact ih

/-- **A hit after a lookup**: what it was, or it carried nothing and now carries one of the
items. -/
theorem attachedBy_cases (items : List Item) (h : Hit) :
    attachedBy items h = h ∨
      h.item = none ∧
        ∃ v ∈ items, v.ref = h.ref ∧ attachedBy items h = { h with item := some v } := by
  induction items with
  | nil => exact Or.inl rfl
  | cons item items ih =>
    cases hi : h.item with
    | some v => exact Or.inl (attachedBy_of_some _ hi)
    | none =>
      rw [attachedBy, List.foldl_cons]
      by_cases href : h.ref = item.ref
      · rw [if_pos href, attached_of_none hi]
        refine Or.inr ⟨rfl, item, by simp, href.symm, ?_⟩
        exact attachedBy_of_some items rfl
      · rw [if_neg href]
        rcases ih with hsame | ⟨-, v, hv, hvref, heq⟩
        · exact Or.inl hsame
        · exact Or.inr ⟨rfl, v, by simp [hv], hvref, heq⟩

@[simp]
theorem ref_attachedBy (items : List Item) (h : Hit) : (attachedBy items h).ref = h.ref := by
  rcases attachedBy_cases items h with heq | ⟨-, v, -, -, heq⟩ <;> rw [heq]

/-- The item that a hit carries after the items of a list have been attached. -/
theorem attachedBy_eq (items : List Item) (h : Hit) :
    attachedBy items h = { h with item := h.item.or (items.find? (·.ref = h.ref)) } := by
  cases hi : h.item with
  | some v =>
    rw [attachedBy_of_some items hi, Option.some_or]
    exact congrArg (fun item => { h with item }) hi
  | none =>
    rw [Option.none_or]
    induction items with
    | nil => exact congrArg (fun item => { h with item }) hi
    | cons item items ih =>
      rw [attachedBy, List.foldl_cons]
      by_cases href : h.ref = item.ref
      · rw [if_pos href, attached_of_none hi, List.find?_cons_of_pos (by simp [href])]
        exact attachedBy_of_some items rfl
      · rw [if_neg href, List.find?_cons_of_neg (by simpa using Ne.symm href)]
        exact ih

/-- **What a lookup does** to the hits of a set. -/
theorem removeAll_attachAll (items : List Item) (missing : List Reference) (rs : ResultSet) :
    ((attachAll items rs).1).removeAll missing =
      { rs with hits := rs.hits.filterMap (Hit.lookedUp items missing) } := by
  rw [attachAll_fst, ResultSet.removeAll]
  refine congrArg (fun hits => { rs with hits }) ?_
  rw [← List.filterMap_eq_map', List.filter_filterMap]
  refine List.filterMap_congr fun h _ => ?_
  rw [attachedBy_eq, Hit.lookedUp]
  by_cases hmem : h.ref ∈ missing <;> simp [hmem]

/-- A lookup drops the hits whose items it misses, and no others. -/
theorem refs_removeAll_attachAll (items : List Item) (missing : List Reference) (rs : ResultSet) :
    (((attachAll items rs).1).removeAll missing).refs = rs.refs.filter (· ∉ missing) := by
  rw [attachAll_fst, ResultSet.refs, ResultSet.refs, ResultSet.removeAll]
  simp only [List.filter_map, List.map_map, Function.comp_def, ref_attachedBy]

/-- A reference that was not missed is in the set after a lookup exactly if it was before. -/
theorem mem_refs_attachAll {items : List Item} {missing : List Reference} {ref : Reference}
    (rs : ResultSet) (hfound : ref ∉ missing) :
    ref ∈ (((attachAll items rs).1).removeAll missing).refs ↔ ref ∈ rs.refs := by
  rw [refs_removeAll_attachAll, List.mem_filter]
  exact and_iff_left (decide_eq_true hfound)

end Session

end LiveSearch
