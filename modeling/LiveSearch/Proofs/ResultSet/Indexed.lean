import LiveSearch.Proofs.Corpus.Store
import LiveSearch.Proofs.ResultSet.Lookup
import LiveSearch.Proofs.ResultSet.Positions
import LiveSearch.Proofs.ResultSet.Replace

/-!
# Result sets with an index

`ResultSet` finds the hit for a reference by going through the hits. A set that is asked often keeps
an **index** beside them (`IndexedSet`), from which the position of a reference is read, and then
works at that position. The index is not touched where the positions stay, it is emptied with the
set, and otherwise it is written anew from the hits. A position that has gone astray would be one
that the hits do not have, and working there fails (`Astray`).

This never happens, because **the index is exact** (`IndexedSet.Exact`): no reference has two hits,
and what is read for a reference is its position. Every act keeps it so, and does to the hits what
it does to a set without an index (`IndexedSet.Exact.act`). What this comes to over any run of acts
is put together in `IndexedSet.exact_of_run`.
-/

namespace LiveSearch

namespace ResultSet

/-! ### Acts -/

/-- What can be done to a result set. -/
inductive Act where
  /-- New hits take the place of the old ones. -/
  | replace (hits : List Hit)
  /-- The hits go. -/
  | clear
  /-- Another order is chosen. -/
  | setOrder (order : SortOrder)
  /-- The hits are sorted. -/
  | resort
  /-- The hits for some references go. -/
  | removeAll (refs : List Reference)
  /-- A hit is given a new version of its item. -/
  | refresh (item : Item)
  /-- A hit that carries no item is given one. -/
  | attach (item : Item)
deriving Inhabited

/-- What an act answers. -/
inductive Answer where
  /-- It is done. -/
  | done
  /-- So many hits are gone. -/
  | removed (count : Nat)
  /-- Was there a hit to change? -/
  | changed (there : Bool)
deriving DecidableEq, Inhabited

namespace Act

/-- Does the act begin a new generation? -/
def renews : Act → Bool
  | .replace _ | .clear => true
  | _ => false

/-- Does the act give the hits other places? -/
def sorts : Act → Bool
  | .replace _ | .resort => true
  | _ => false

end Act

/-- The set after an act. -/
def act (rs : ResultSet) : Act → ResultSet
  | .replace hits => rs.replace hits
  | .clear => rs.clear
  | .setOrder order => rs.setOrder order
  | .resort => rs.resort
  | .removeAll refs => rs.removeAll refs
  | .refresh item => rs.refresh item
  | .attach item => rs.attach item

/-- The set after some acts. -/
def run (rs : ResultSet) (acts : List Act) : ResultSet :=
  acts.foldl act rs

/-- What an act answers: how many hits go, or whether there is a hit to change. -/
def answer (rs : ResultSet) : Act → Answer
  | .removeAll refs => .removed (rs.hits.countP (·.ref ∈ refs))
  | .refresh item => .changed (rs.contains item.ref)
  | .attach item => .changed (rs.lacksItem item.ref)
  | _ => .done

/-! ### What acts leave alone -/

/-- **Generations are counted.** -/
theorem generation_run (rs : ResultSet) (acts : List Act) :
    (rs.run acts).generation = rs.generation + acts.countP Act.renews := by
  have hact : ∀ (rs : ResultSet) (a : Act),
      (rs.act a).generation = rs.generation + if a.renews then 1 else 0 := by
    intro rs a
    cases a <;> rfl
  induction acts generalizing rs with
  | nil => rfl
  | cons a rest ih =>
    show ((rs.act a).run rest).generation = _
    rw [ih, hact, List.countP_cons, Nat.add_assoc, Nat.add_comm (if a.renews then 1 else 0)]

/-- A change that leaves the reference of a hit alone leaves all references alone. -/
theorem refs_modify (rs : ResultSet) (ref : Reference) {f : Hit → Hit}
    (hf : ∀ h, (f h).ref = h.ref) : (rs.modify ref f).refs = rs.refs := by
  rw [refs, modify, List.map_map]
  refine List.map_congr_left fun h _ => ?_
  show (if h.ref = ref then f h else h).ref = h.ref
  split
  · exact hf h
  · rfl

/-- **Hits that stay keep their places** relative to each other, unless the set is sorted. -/
theorem sublist_refs_act (rs : ResultSet) {a : Act} (hplaces : a.sorts = false) :
    (rs.act a).refs.Sublist rs.refs := by
  cases a with
  | replace hits => cases hplaces
  | clear => exact List.nil_sublist _
  | setOrder order => exact List.Sublist.refl _
  | resort => cases hplaces
  | removeAll refs => exact List.filter_sublist.map _
  | refresh item =>
    have hrefs : (rs.refresh item).refs = rs.refs := rs.refs_modify item.ref fun _ => rfl
    exact hrefs ▸ List.Sublist.refl _
  | attach item =>
    have hrefs : (rs.attach item).refs = rs.refs := rs.refs_modify item.ref fun _ => rfl
    exact hrefs ▸ List.Sublist.refl _

end ResultSet

/-- A result set that keeps the positions of its hits. -/
structure IndexedSet where
  /-- The hits, in the order in which they are shown. -/
  hits : List Hit := []
  /-- The positions of the references. -/
  index : Table Reference Nat := {}
  /-- The order that the next sort establishes. -/
  order : SortOrder := {}
  /-- How often the set has been replaced or cleared. -/
  generation : Nat := 0
deriving DecidableEq, Inhabited

/-- A position that the hits do not have. -/
structure Astray where
  position : Nat
deriving DecidableEq

namespace IndexedSet

/-! ### Working with the index -/

/-- The set without its index. -/
def view (s : IndexedSet) : ResultSet :=
  { hits := s.hits, order := s.order, generation := s.generation }

/-- The index with the positions of some hits, the first of which stands at `first`. -/
def record : Nat → List Hit → Table Reference Nat → Table Reference Nat
  | _, [], index => index
  | first, h :: rest, index => record (first + 1) rest (index.insert h.ref first)

/-- The set with its index written anew. -/
def reindex (s : IndexedSet) : IndexedSet :=
  { s with index := record 0 s.hits {} }

/-- The visible hits for references that have not been seen before. -/
def unseen : List Reference → List Hit → List Hit
  | _, [] => []
  | seen, h :: rest =>
    if h.isVisible ∧ h.ref ∉ seen then h :: unseen (h.ref :: seen) rest else unseen seen rest

/-- The set sorted under its order. -/
def resort (s : IndexedSet) : IndexedSet :=
  reindex { s with hits := if s.hits.isEmpty then [] else s.order.sort s.hits }

/-- The set with new hits. -/
def replace (s : IndexedSet) (hits : List Hit) : IndexedSet :=
  resort { s with hits := unseen [] hits, generation := s.generation + 1 }

/-- The set without hits. -/
def clear (s : IndexedSet) : IndexedSet :=
  { s with hits := [], index := {}, generation := s.generation + 1 }

/-- The set without the hits for some references, and how many these were. The index is written anew
only if a hit is gone. -/
def removeAll (s : IndexedSet) (refs : List Reference) : IndexedSet × Nat :=
  if refs.isEmpty then (s, 0)
  else
    let kept := s.hits.filter (·.ref ∉ refs)
    let removed := s.hits.length - kept.length
    let after := { s with hits := kept }
    (if 0 < removed then after.reindex else after, removed)

/-- The position of a reference. -/
def position? (s : IndexedSet) (ref : Reference) : Option Nat :=
  s.index.get? ref

/-- Is there a hit for the reference? -/
def contains (s : IndexedSet) (ref : Reference) : Bool :=
  s.index.contains ref

/-- The references that have a hit. -/
def members (s : IndexedSet) : List Reference :=
  s.index.keys

/-- The hit at a position. -/
def hitAt (s : IndexedSet) (position : Nat) : Except Astray Hit :=
  match s.hits[position]? with
  | some h => .ok h
  | none => .error ⟨position⟩

/-- The hit for a reference. -/
def get (s : IndexedSet) (ref : Reference) : Except Astray (Option Hit) :=
  match s.position? ref with
  | none => .ok none
  | some i => (s.hitAt i).map some

/-- The set with a new version of an item in the hit for it, and whether there is such a hit. -/
def refresh (s : IndexedSet) (item : Item) : Except Astray (IndexedSet × Bool) :=
  match s.position? item.ref with
  | none => .ok (s, false)
  | some i =>
    (s.hitAt i).map fun h => ({ s with hits := s.hits.set i (h.refreshed item) }, true)

/-- The set with an item in the hit for it, and whether there is such a hit and carried none. -/
def attach (s : IndexedSet) (item : Item) : Except Astray (IndexedSet × Bool) :=
  match s.position? item.ref with
  | none => .ok (s, false)
  | some i =>
    (s.hitAt i).map fun h =>
      if h.item.isNone then ({ s with hits := s.hits.set i { h with item := some item } }, true)
      else (s, false)

/-- The set after an act, and what the act answers. -/
def act (s : IndexedSet) : ResultSet.Act → Except Astray (IndexedSet × ResultSet.Answer)
  | .replace hits => .ok (s.replace hits, .done)
  | .clear => .ok (s.clear, .done)
  | .setOrder order => .ok ({ s with order }, .done)
  | .resort => .ok (s.resort, .done)
  | .removeAll refs => .ok ((s.removeAll refs).1, .removed (s.removeAll refs).2)
  | .refresh item => (s.refresh item).map fun (after, there) => (after, .changed there)
  | .attach item => (s.attach item).map fun (after, there) => (after, .changed there)

/-- The set after some acts. -/
def run (s : IndexedSet) : List ResultSet.Act → Except Astray IndexedSet
  | [] => .ok s
  | a :: rest =>
    match s.act a with
    | .ok (after, _) => after.run rest
    | .error astray => .error astray

/-! ### Writing the index -/

theorem get?_record {hits : List Hit} (hnodup : (hits.map (·.ref)).Nodup) (first : Nat)
    (index : Table Reference Nat) (ref : Reference) :
    (record first hits index).get? ref =
      ((hits.findIdx? (·.ref = ref)).map (first + ·)).or (index.get? ref) := by
  induction hits generalizing first index with
  | nil => rfl
  | cons h rest ih =>
    obtain ⟨hnew, hrest⟩ := List.nodup_cons.mp hnodup
    rw [record, ih hrest, Table.get?_insert, List.findIdx?_cons]
    by_cases href : h.ref = ref
    · -- no later hit is for the same reference
      have hnone : rest.findIdx? (·.ref = ref) = none := by
        rw [List.findIdx?_eq_none_iff]
        intro x hx
        rw [decide_eq_false_iff_not]
        intro hx'
        exact hnew (List.mem_map.mpr ⟨x, hx, hx'.trans href.symm⟩)
      simp [href, hnone]
    · simp only [href, decide_false, Bool.false_eq_true, if_false, Option.map_map]
      congr 2
      funext i
      exact Nat.add_right_comm first 1 i

theorem ascending_record (first : Nat) (hits : List Hit) {index : Table Reference Nat}
    (hindex : index.Ascending) : (record first hits index).Ascending := by
  induction hits generalizing first index with
  | nil => exact hindex
  | cons h rest ih => exact ih (first + 1) (hindex.insert h.ref first)

/-- **Going through new hits with a list of what has been seen** finds the first visible hit of each
reference. -/
theorem unseen_eq (seen : List Reference) (hits : List Hit) :
    unseen seen hits =
      (ResultSet.firstOfEach (hits.filter Hit.isVisible)).filter (·.ref ∉ seen) := by
  induction hits generalizing seen with
  | nil => rfl
  | cons h rest ih =>
    rw [unseen]
    by_cases hv : h.isVisible = true
    · rw [List.filter_cons_of_pos hv, ResultSet.firstOfEach, List.filter_cons, List.filter_filter]
      by_cases hseen : h.ref ∈ seen
      · rw [if_neg fun hboth => hboth.2 hseen, if_neg (by simpa using hseen), ih]
        refine List.filter_congr fun x _ => ?_
        by_cases hx : x.ref = h.ref
        · simp [hx, hseen]
        · simp [hx]
      · rw [if_pos ⟨hv, hseen⟩, if_pos (by simpa using hseen), ih]
        refine congrArg (h :: ·) (List.filter_congr fun x _ => ?_)
        by_cases hx : x.ref = h.ref <;> simp [hx]
    · rw [if_neg fun hboth => hv hboth.1, List.filter_cons_of_neg hv, ih]

/-! ### An exact index -/

/-- **The index is exact.** -/
structure Exact (s : IndexedSet) : Prop where
  /-- No reference has two hits. -/
  distinct : s.view.refs.Nodup
  /-- What is read for a reference is its position. -/
  positions : ∀ ref, s.position? ref = s.view.position? ref
  /-- No reference is written twice. -/
  ascending : s.index.Ascending

variable {s : IndexedSet}

theorem exact_reindex (hnodup : s.view.refs.Nodup) : s.reindex.Exact := by
  refine ⟨hnodup, fun ref => ?_, ascending_record 0 s.hits List.Pairwise.nil⟩
  refine (get?_record hnodup 0 {} ref).trans ?_
  simp [view, reindex, ResultSet.position?, Table.get?]

theorem view_resort (s : IndexedSet) : s.resort.view = s.view.resort := by
  have hsorted : (if s.hits.isEmpty then [] else s.order.sort s.hits) = s.order.sort s.hits := by
    split
    · next hempty =>
      rw [List.isEmpty_iff.mp hempty]
      exact List.mergeSort_nil.symm
    · rfl
  exact congrArg (fun hits => { s.view with hits }) hsorted

theorem exact_resort (hnodup : s.view.refs.Nodup) : s.resort.Exact := by
  have hperm : s.view.resort.refs.Perm s.view.refs :=
    (List.mergeSort_perm s.view.hits s.view.order.le).map Hit.ref
  have hsorted : s.resort.view.refs.Nodup := by
    rw [view_resort, hperm.nodup_iff]
    exact hnodup
  exact exact_reindex hsorted

theorem view_replace (s : IndexedSet) (hits : List Hit) :
    (s.replace hits).view = s.view.replace hits := by
  have hfirsts : unseen [] hits = ResultSet.firstOfEach (hits.filter Hit.isVisible) := by
    rw [unseen_eq]
    simp
  rw [replace, view_resort, hfirsts]
  rfl

theorem exact_replace (s : IndexedSet) (hits : List Hit) : (s.replace hits).Exact := by
  refine exact_resort ?_
  show ((unseen [] hits).map (·.ref)).Nodup
  rw [unseen_eq]
  exact (ResultSet.nodup_firstOfEach _).sublist (List.filter_sublist.map _)

theorem exact_clear (s : IndexedSet) : s.clear.Exact :=
  ⟨List.nodup_nil, fun _ => rfl, List.Pairwise.nil⟩

namespace Exact

theorem wellFormed (h : s.Exact) : s.view.WellFormed :=
  ResultSet.wellFormed_iff.mpr h.distinct

/-- Positions are those of the hits. -/
theorem position?_eq_some_iff (h : s.Exact) (ref : Reference) (i : Nat) :
    s.position? ref = some i ↔ s.hits[i]?.map (·.ref) = some ref := by
  rw [h.positions, ResultSet.position?_eq_some_iff h.distinct, ResultSet.refs, List.getElem?_map]
  rfl

theorem isSome_position? (h : s.Exact) (ref : Reference) :
    (s.position? ref).isSome = s.view.contains ref := by
  rw [h.positions, ResultSet.position?, List.findIdx?_isSome]
  rfl

theorem contains_eq (h : s.Exact) (ref : Reference) : s.contains ref = s.view.contains ref := by
  rw [contains, Table.contains_eq]
  exact h.isSome_position? ref

/-- **The position of a reference is that of its hit**, so there is one to work at. -/
theorem exists_hitAt (h : s.Exact) {ref : Reference} {i : Nat} (hi : s.position? ref = some i) :
    ∃ x, s.hits[i]? = some x ∧ x.ref = ref ∧ s.hitAt i = .ok x := by
  obtain ⟨x, hx, href⟩ := Option.map_eq_some_iff.mp ((h.position?_eq_some_iff ref i).mp hi)
  exact ⟨x, hx, href, by rw [hitAt, hx]⟩

/-- A hit is found where it is. -/
theorem get_eq (h : s.Exact) (ref : Reference) : s.get ref = .ok (s.view.get? ref) := by
  rw [get]
  cases hi : s.position? ref with
  | none =>
    have hnone : s.view.get? ref = none := by
      have hout := h.isSome_position? ref
      rw [hi, ResultSet.contains, ← List.isSome_find?] at hout
      exact Option.isSome_eq_false_iff.mp hout.symm |> Option.isNone_iff_eq_none.mp
    rw [hnone]
  | some i =>
    obtain ⟨x, hx, href, hat⟩ := h.exists_hitAt hi
    have hget : s.view.get? ref = some x :=
      h.wellFormed.get?_eq_some_iff.mpr ⟨List.mem_of_getElem? hx, href⟩
    rw [hget]
    show (s.hitAt i).map some = _
    rw [hat]
    rfl

/-- The members are the references of the hits. -/
theorem members_perm (h : s.Exact) : s.members.Perm s.view.refs := by
  refine (List.perm_ext_iff_of_nodup h.ascending.nodup_keys h.distinct).mpr fun ref => ?_
  have hread : ref ∈ s.members ↔ s.contains ref = true := by
    rw [contains, Table.contains, List.any_eq_true]
    simp [members, Table.keys]
  refine hread.trans ?_
  rw [h.contains_eq, ResultSet.contains, List.any_eq_true]
  simp [ResultSet.refs]

/-! ### Changing one hit -/

/-- **Writing at the position of a reference** changes its hit. -/
theorem set_eq (h : s.Exact) {ref : Reference} {i : Nat} {x : Hit} (f : Hit → Hit)
    (hi : s.position? ref = some i) (hx : s.hits[i]? = some x) :
    s.hits.set i (f x) = (s.view.modify ref f).hits := by
  refine List.ext_getElem? fun j => ?_
  rw [List.getElem?_set]
  show _ = (s.hits.map fun h => if h.ref = ref then f h else h)[j]?
  rw [List.getElem?_map]
  by_cases hij : i = j
  · subst hij
    have href := (h.position?_eq_some_iff ref i).mp hi
    rw [hx, Option.map_some, Option.some.injEq] at href
    have hlt : i < s.hits.length := (List.getElem?_eq_some_iff.mp hx).1
    rw [if_pos rfl, if_pos hlt, hx, Option.map_some, if_pos href]
  · rw [if_neg hij]
    cases hy : s.hits[j]? with
    | none => rfl
    | some y =>
      -- a hit for the reference at another position would be a second one
      have hne : y.ref ≠ ref := by
        intro heq
        have hj := (h.position?_eq_some_iff ref j).mpr (by rw [hy, Option.map_some, heq])
        exact hij (Option.some.inj (hi.symm.trans hj))
      rw [Option.map_some, if_neg hne]

/-- A set with other hits for the same references has the same index. -/
theorem withHits (h : s.Exact) {hits : List Hit} (hrefs : hits.map (·.ref) = s.view.refs) :
    Exact { s with hits } := by
  have hnodup : (view { s with hits }).refs.Nodup := by
    show (hits.map (·.ref)).Nodup
    rw [hrefs]
    exact h.distinct
  refine ⟨hnodup, fun ref => ?_, h.ascending⟩
  show s.position? ref = _
  rw [h.positions]
  refine Option.ext fun i => ?_
  rw [ResultSet.position?_eq_some_iff h.distinct, ResultSet.position?_eq_some_iff hnodup]
  show s.view.refs[i]? = some ref ↔ (hits.map (·.ref))[i]? = some ref
  rw [hrefs]

/-- Where a reference has no hit there is none to change. -/
theorem modify_of_none (h : s.Exact) {ref : Reference} (hi : s.position? ref = none)
    (f : Hit → Hit) : s.view.modify ref f = s.view := by
  have hout := h.isSome_position? ref
  rw [hi] at hout
  have hall : ∀ x ∈ s.view.hits, (if x.ref = ref then f x else x) = x := by
    intro x hx
    have hne := List.any_eq_false.mp hout.symm x hx
    exact if_neg (by simpa using hne)
  rw [ResultSet.modify, List.map_congr_left hall, List.map_id']

/-- **Working at the position of a reference**, without changing what the hit is for. -/
theorem view_set (h : s.Exact) {ref : Reference} {i : Nat} {x : Hit} (f : Hit → Hit)
    (hf : ∀ y, (f y).ref = y.ref) (hi : s.position? ref = some i) (hx : s.hits[i]? = some x) :
    view { s with hits := s.hits.set i (f x) } = s.view.modify ref f ∧
      Exact { s with hits := s.hits.set i (f x) } := by
  have hset := h.set_eq f hi hx
  refine ⟨congrArg (fun hits => { s.view with hits }) hset, h.withHits ?_⟩
  rw [hset]
  exact s.view.refs_modify ref hf

/-! ### Every act -/

theorem removeAll (h : s.Exact) (refs : List Reference) :
    (s.removeAll refs).2 = s.hits.countP (·.ref ∈ refs) ∧
      (s.removeAll refs).1.view = s.view.removeAll refs ∧ (s.removeAll refs).1.Exact := by
  have hcount : s.hits.length - (s.hits.filter (·.ref ∉ refs)).length =
      s.hits.countP (·.ref ∈ refs) := by
    have hsplit := s.view.length_removeAll refs
    exact Nat.sub_eq_of_eq_add' hsplit.symm
  rw [IndexedSet.removeAll]
  split
  · next hnone =>
    obtain rfl := List.isEmpty_iff.mp hnone
    refine ⟨?_, ?_, h⟩
    · simp
    · simp [ResultSet.removeAll]
  · simp only [hcount]
    split
    · exact ⟨trivial, rfl, exact_reindex (h.distinct.sublist (List.filter_sublist.map _))⟩
    · next hzero =>
      -- no hit is gone, so the positions are what they were
      have hall : s.hits.filter (·.ref ∉ refs) = s.hits := by
        refine List.filter_sublist.eq_of_length ?_
        have hle := List.length_filter_le (fun x : Hit => decide (x.ref ∉ refs)) s.hits
        omega
      exact ⟨trivial, rfl, h.withHits (congrArg (List.map (·.ref)) hall)⟩

theorem refresh (h : s.Exact) (item : Item) :
    ∃ after, s.refresh item = .ok (after, s.view.contains item.ref) ∧
      after.view = s.view.refresh item ∧ after.Exact := by
  rw [← h.isSome_position?, IndexedSet.refresh]
  cases hi : s.position? item.ref with
  | none => exact ⟨s, rfl, (h.modify_of_none hi _).symm, h⟩
  | some i =>
    obtain ⟨x, hx, -, hat⟩ := h.exists_hitAt hi
    refine ⟨{ s with hits := s.hits.set i (x.refreshed item) }, ?_,
      h.view_set (·.refreshed item) (fun _ => rfl) hi hx⟩
    simp only [hat]
    rfl

theorem attach (h : s.Exact) (item : Item) :
    ∃ after, s.attach item = .ok (after, s.view.lacksItem item.ref) ∧
      after.view = s.view.attach item ∧ after.Exact := by
  rw [IndexedSet.attach]
  cases hi : s.position? item.ref with
  | none =>
    have hout := h.isSome_position? item.ref
    rw [hi] at hout
    have hlacks : s.view.lacksItem item.ref = false := by
      rw [ResultSet.lacksItem, List.any_eq_false]
      intro x hx
      have hne := List.any_eq_false.mp hout.symm x hx
      simp_all
    exact ⟨s, by rw [hlacks], (h.modify_of_none hi _).symm, h⟩
  | some i =>
    obtain ⟨x, hx, href, hat⟩ := h.exists_hitAt hi
    have hmem : x ∈ s.view.hits := List.mem_of_getElem? hx
    have hlacks := h.wellFormed.lacksItem_iff hmem
    rw [href] at hlacks
    simp only [hat]
    cases hitem : x.item with
    | none =>
      refine ⟨{ s with hits := s.hits.set i (x.attached item) }, ?_,
        h.view_set (·.attached item) (fun _ => rfl) hi hx⟩
      rw [hlacks.mpr hitem, Session.attached_of_none hitem]
      simp [Except.map, hitem]
    | some v =>
      refine ⟨s, ?_, ?_, h⟩
      · have hcarries : s.view.lacksItem item.ref = false := by
          simpa [hitem] using hlacks
        rw [hcarries]
        simp [Except.map, hitem]
      · have hall : ∀ y ∈ s.view.hits,
            (if y.ref = item.ref then y.attached item else y) = y := by
          intro y hy
          split
          · next hy' =>
            obtain rfl := h.wellFormed.eq_of_ref hy hmem (hy'.trans href.symm)
            exact Session.attached_of_some hitem item
          · rfl
        rw [ResultSet.attach, ResultSet.modify, List.map_congr_left hall, List.map_id']

/-- **Every act** answers what it answers of a set without an index, does to the hits what it does
there, and keeps the index exact. None of them is led astray. -/
theorem act (h : s.Exact) (a : ResultSet.Act) :
    ∃ after, s.act a = .ok (after, s.view.answer a) ∧ after.view = s.view.act a ∧
      after.Exact := by
  cases a with
  | replace hits => exact ⟨s.replace hits, rfl, s.view_replace hits, s.exact_replace hits⟩
  | clear => exact ⟨s.clear, rfl, rfl, s.exact_clear⟩
  | setOrder order => exact ⟨{ s with order }, rfl, rfl, h.distinct, h.positions, h.ascending⟩
  | resort => exact ⟨s.resort, rfl, s.view_resort, exact_resort h.distinct⟩
  | removeAll refs =>
    obtain ⟨hcount, hview, hexact⟩ := h.removeAll refs
    refine ⟨(s.removeAll refs).1, ?_, hview, hexact⟩
    rw [IndexedSet.act, hcount]
    rfl
  | refresh item =>
    obtain ⟨after, hafter, hview, hexact⟩ := h.refresh item
    refine ⟨after, ?_, hview, hexact⟩
    rw [IndexedSet.act, hafter]
    rfl
  | attach item =>
    obtain ⟨after, hafter, hview, hexact⟩ := h.attach item
    refine ⟨after, ?_, hview, hexact⟩
    rw [IndexedSet.act, hafter]
    rfl

/-- **Every run of acts** comes to its end. -/
theorem run (h : s.Exact) (acts : List ResultSet.Act) :
    ∃ after, s.run acts = .ok after ∧ after.view = s.view.run acts ∧ after.Exact := by
  induction acts generalizing s with
  | nil => exact ⟨s, rfl, rfl, h⟩
  | cons a rest ih =>
    obtain ⟨next, hnext, hview, hexact⟩ := h.act a
    obtain ⟨after, hafter, hlast⟩ := ih hexact
    refine ⟨after, ?_, ?_⟩
    · rw [IndexedSet.run, hnext]
      exact hafter
    · rw [hview] at hlast
      exact hlast

end Exact

theorem exact_empty : Exact {} :=
  ⟨List.nodup_nil, fun _ => rfl, List.Pairwise.nil⟩

/-- **What an index is worth.** Let any acts be done to an empty set, with any arguments. None of
them is led astray, the hits are those of a set without an index, and what is read from the index is
what such a set finds by going through its hits. No reference has two hits; the position of a
reference is that of its hit; a reference is contained, and a member, if it has a hit, and this hit
is what is found for it; and the generation is the number of times that the set was replaced or
cleared. Whatever is done next is not led astray either; unless it sorts the set, the hits that stay
keep their places relative to each other; and if it removes the hits for some references, then these
hits are gone and no others, and their number is the answer. -/
theorem exact_of_run (acts : List ResultSet.Act) :
    ∃ s, run {} acts = .ok s ∧
      s.view = ResultSet.run {} acts ∧
      (∀ ref, s.position? ref = (ResultSet.run {} acts).position? ref ∧
        s.contains ref = (ResultSet.run {} acts).contains ref ∧
        s.get ref = .ok ((ResultSet.run {} acts).get? ref)) ∧
      s.view.refs.Nodup ∧
      (∀ ref i, s.position? ref = some i ↔ s.hits[i]?.map (·.ref) = some ref) ∧
      (∀ ref, s.contains ref = true ↔ ref ∈ s.view.refs) ∧
      (∀ ref, s.get ref = .ok (s.hits.find? (·.ref = ref))) ∧
      s.members.Perm s.view.refs ∧
      s.generation = acts.countP ResultSet.Act.renews ∧
      ∀ a, ∃ after answer, s.act a = .ok (after, answer) ∧
        (a.sorts = false → after.view.refs.Sublist s.view.refs) ∧
        ∀ refs, a = .removeAll refs → after.hits = s.hits.filter (·.ref ∉ refs) ∧
          ∃ count, answer = .removed count ∧ after.hits.length + count = s.hits.length := by
  obtain ⟨s, hrun, hview, hexact⟩ := exact_empty.run acts
  refine ⟨s, hrun, hview, fun ref => ?read, hexact.distinct, hexact.position?_eq_some_iff,
    fun ref => ?contained, hexact.get_eq, hexact.members_perm, ?generation, fun a => ?next⟩
  case read =>
    have hplain : ResultSet.run {} acts = s.view := hview.symm
    rw [hplain]
    exact ⟨hexact.positions ref, hexact.contains_eq ref, hexact.get_eq ref⟩
  case contained =>
    rw [hexact.contains_eq, ResultSet.contains, List.any_eq_true]
    simp [ResultSet.refs]
  case generation =>
    calc s.generation
        = (ResultSet.run {} acts).generation := congrArg ResultSet.generation hview
      _ = 0 + acts.countP ResultSet.Act.renews := ResultSet.generation_run {} acts
      _ = acts.countP ResultSet.Act.renews := Nat.zero_add _
  case next =>
    obtain ⟨after, hafter, hbecomes, -⟩ := hexact.act a
    refine ⟨after, s.view.answer a, hafter, fun hplaces => ?_, ?_⟩
    · rw [hbecomes]
      exact s.view.sublist_refs_act hplaces
    · rintro refs rfl
      have hhits : after.hits = s.hits.filter (·.ref ∉ refs) := congrArg ResultSet.hits hbecomes
      refine ⟨hhits, _, rfl, ?_⟩
      rw [hhits]
      exact s.view.length_removeAll refs

end IndexedSet

end LiveSearch
