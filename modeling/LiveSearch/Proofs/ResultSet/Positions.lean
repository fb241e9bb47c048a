import LiveSearch.ResultSet
import Mathlib.Data.List.Nodup

/-!
# Well-formed result sets

A result set is **well-formed** (`ResultSet.WellFormed`) if no reference has two hits. Then a
position is all that is needed to find a hit: the position of a reference is the place where it
stands among the references of the hits (`ResultSet.wellFormed_iff`). Positions are read off the
hits, so there is nothing that could fall out of step with them.
-/

namespace LiveSearch.ResultSet

/-- **A well-formed set**: every reference has one hit at most, and the position of a reference is
that of its hit. -/
structure WellFormed (rs : ResultSet) : Prop where
  /-- No reference has two hits. -/
  distinct : rs.refs.Nodup
  /-- Positions are exact. -/
  exact : ∀ ref i, rs.position? ref = some i ↔ rs.refs[i]? = some ref

/-- Positions are exact where no reference has two hits. -/
theorem position?_eq_some_iff {rs : ResultSet} (hnodup : rs.refs.Nodup) (ref : Reference)
    (i : Nat) : rs.position? ref = some i ↔ rs.refs[i]? = some ref := by
  rw [position?, List.findIdx?_eq_some_iff_getElem, refs, List.getElem?_eq_some_iff]
  simp only [List.getElem_map, List.length_map, decide_eq_true_eq]
  constructor
  · rintro ⟨hi, href, -⟩
    exact ⟨hi, href⟩
  · rintro ⟨hi, href⟩
    refine ⟨hi, href, fun j hji hj => ?_⟩
    -- an earlier hit for the reference would be a second one
    have hsecond : i < rs.refs.length := by rwa [refs, List.length_map]
    have hfirst : j < rs.refs.length := Nat.lt_trans hji hsecond
    have hsame : rs.refs[j] = rs.refs[i] := by simp [refs, hj, href]
    exact absurd (hnodup.getElem_inj_iff.mp hsame) (Nat.ne_of_lt hji)

/-- In a well-formed set there is one hit for a reference. -/
theorem WellFormed.eq_of_ref {rs : ResultSet} (h : rs.WellFormed) {x y : Hit} (hx : x ∈ rs.hits)
    (hy : y ∈ rs.hits) (href : x.ref = y.ref) : x = y :=
  List.inj_on_of_nodup_map h.distinct hx hy href

/-- **The hit for a reference** in a well-formed set is the one that has it. -/
theorem WellFormed.get?_eq_some_iff {rs : ResultSet} (h : rs.WellFormed) {ref : Reference}
    {x : Hit} : rs.get? ref = some x ↔ x ∈ rs.hits ∧ x.ref = ref := by
  constructor
  · intro hget
    have href := List.find?_some (p := fun x : Hit => x.ref = ref) hget
    exact ⟨List.mem_of_find?_eq_some hget, of_decide_eq_true href⟩
  · rintro ⟨hx, rfl⟩
    rcases hget : rs.get? x.ref with _ | y
    · exact absurd (decide_eq_true rfl) (List.find?_eq_none.mp hget x hx)
    · have href := List.find?_some (p := fun y : Hit => y.ref = x.ref) hget
      rw [h.eq_of_ref (List.mem_of_find?_eq_some hget) hx (of_decide_eq_true href)]

/-- In a well-formed set a reference lacks its item if its hit does. -/
theorem WellFormed.lacksItem_iff {rs : ResultSet} (h : rs.WellFormed) {x : Hit}
    (hx : x ∈ rs.hits) : rs.lacksItem x.ref = true ↔ x.item = none := by
  simp only [lacksItem, List.any_eq_true, decide_eq_true_eq, Option.isNone_iff_eq_none]
  constructor
  · rintro ⟨y, hy, href, hitem⟩
    rw [← h.eq_of_ref hy hx href]
    exact hitem
  · exact fun hitem => ⟨x, hx, rfl, hitem⟩

/-- The hits that a removal drops are those for its references. -/
theorem length_removeAll (rs : ResultSet) (refs : List Reference) :
    (rs.removeAll refs).hits.length + rs.hits.countP (·.ref ∈ refs) = rs.hits.length := by
  have hsplit := List.length_eq_countP_add_countP (fun h : Hit => h.ref ∈ refs) (l := rs.hits)
  simp only [decide_eq_true_eq] at hsplit
  rw [removeAll, ← List.countP_eq_length_filter, Nat.add_comm]
  exact hsplit.symm

/-- A pass over the hits that drops some and leaves the references of the others alone keeps these
in order. -/
theorem sublist_refs_filterMap {f : Hit → Option Hit} (hf : ∀ h h', f h = some h' → h'.ref = h.ref)
    (hits : List Hit) : ((hits.filterMap f).map (·.ref)).Sublist (hits.map (·.ref)) := by
  induction hits with
  | nil => exact List.Sublist.slnil
  | cons h hits ih =>
    cases hh : f h with
    | none =>
      rw [List.filterMap_cons_none hh, List.map_cons]
      exact ih.cons h.ref
    | some h' =>
      rw [List.filterMap_cons_some hh, List.map_cons, List.map_cons, hf h h' hh]
      exact ih.cons_cons h.ref

theorem wellFormed_iff {rs : ResultSet} : rs.WellFormed ↔ rs.refs.Nodup :=
  ⟨fun h => h.distinct, fun h => ⟨h, position?_eq_some_iff h⟩⟩

/-- **Such a pass keeps a set well-formed.** -/
theorem WellFormed.filterMap {rs : ResultSet} (h : rs.WellFormed) {f : Hit → Option Hit}
    (hf : ∀ h h', f h = some h' → h'.ref = h.ref) :
    WellFormed { rs with hits := rs.hits.filterMap f } :=
  wellFormed_iff.mpr (h.distinct.sublist (sublist_refs_filterMap hf rs.hits))

end LiveSearch.ResultSet
