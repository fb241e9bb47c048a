import LiveSearch.Proofs.Reconcile.Rechecking
import LiveSearch.Proofs.Session.Coherence
import LiveSearch.Proofs.Session.Generations

/-!
# Materializing a range

The hits of a range are materialized by their references. These are read off at the positions of the
range; then items are attached and hits removed, by reference, which shifts the positions; and then
the hits are read back, again by reference. As each reference has one hit at most, and a resolver is
trusted to answer a lookup with the item that was asked for, **all of this is one pass over the hits
of the range** (`ResultSet.materializeRefs_range`): a hit that carries an item stays as it is, one
without an item gets it, goes if there is none, and stays without it if the lookup fails
(`Hit.resolvedBy`). What is shown are the hits that then carry their items.

`Session.refsOfRange` takes what there is of a range, whatever its bounds. A `slice` fails where the
bounds are not in order or beyond the end. As both are clamped first, **materializing by a slice does
not fail, and comes to the same** (`Session.materializeSlice_eq`).
-/

namespace LiveSearch

variable {resolver : Resolver}

namespace Resolver

/-- Of the items that are found for some references the one for a reference is what its own lookup
finds, if it is one of them. -/
theorem Keyed.find?_found (hk : resolver.Keyed) (refs : List Reference) (ref : Reference) :
    (resolver.found refs).find? (·.ref = ref) =
      if ref ∈ refs then (resolver ref).toOption else none := by
  have hcons : ∀ first rest, resolver.found (first :: rest) =
      (resolver first).toOption.toList ++ resolver.found rest := by
    intro first rest
    rw [found, found, List.filterMap_cons]
    cases (resolver first).toOption <;> rfl
  induction refs with
  | nil => rfl
  | cons first rest ih =>
    rw [hcons, List.find?_append, ih]
    rcases hfirst : resolver first with e | item
    · by_cases heq : ref = first
      · subst heq
        simp [hfirst, Except.toOption]
      · simp [heq, Except.toOption]
    · have href : item.ref = first := hk first item hfirst
      by_cases heq : ref = first
      · subst heq
        simp [hfirst, href, Except.toOption]
      · simp [heq, href, Ne.symm heq, Except.toOption]

theorem mem_missing {refs : List Reference} {ref : Reference} :
    ref ∈ resolver.missing refs ↔ ref ∈ refs ∧ resolver.misses ref = true :=
  List.mem_filter

end Resolver

namespace Hit

/-! ### One hit -/

/-- **The hit after its item has been looked up on the spot**, unless it carries one already: with
the item, gone if there is none, and as it was if the lookup fails. -/
def resolvedBy (resolver : Resolver) (h : Hit) : Option Hit :=
  match h.item, resolver h.ref with
  | some _, _ => some h
  | none, .ok item => some { h with item := some item }
  | none, .error e => if e.isNotFound then none else some h

variable {h : Hit} {refs : List Reference}

/-- A hit that is not looked up stays as it is. -/
theorem lookedUp_of_notMem_refs (hk : resolver.Keyed) (hnot : h.ref ∉ refs) :
    h.lookedUp (resolver.found refs) (resolver.missing refs) = some h := by
  rw [lookedUp_of_notMem fun hmem => hnot (Resolver.mem_missing.mp hmem).1, hk.find?_found,
    if_neg hnot, Option.or_none]

/-- **A hit that is looked up** if it lacks its item. -/
theorem lookedUp_eq_resolvedBy (hk : resolver.Keyed) (hmem : h.ref ∈ refs ↔ h.item = none) :
    h.lookedUp (resolver.found refs) (resolver.missing refs) = h.resolvedBy resolver := by
  cases hitem : h.item with
  | some v =>
    have hnot : h.ref ∉ refs := fun hin => by simp [hitem] at hmem; exact hmem hin
    rw [lookedUp_of_notMem_refs hk hnot, resolvedBy, hitem]
  | none =>
    have hin : h.ref ∈ refs := hmem.mpr hitem
    have hmissed : h.ref ∈ resolver.missing refs ↔ resolver.misses h.ref = true :=
      Resolver.mem_missing.trans (and_iff_right hin)
    have hfound := hk.find?_found refs h.ref
    rw [if_pos hin] at hfound
    rw [resolvedBy, hitem]
    rcases hr : resolver h.ref with e | item <;> rw [Resolver.misses, hr] at hmissed <;>
      rw [hr] at hfound
    · by_cases hgone : e.isNotFound = true
      · rw [lookedUp_of_mem (hmissed.mpr hgone)]
        exact (if_pos hgone).symm
      · rw [lookedUp_of_notMem (hmissed.not.mpr hgone), hfound, Except.toOption, Option.or_none]
        exact (if_neg hgone).symm
    · rw [lookedUp_of_notMem (by simp [hmissed]), hfound, hitem]
      rfl

end Hit

namespace ResultSet

variable {rs : ResultSet} {before range rest : List Hit}

/-! ### Hits by position and by reference -/

/-- **A range that is clamped to the set**, with the hits before it and those behind it. -/
theorem split_range (rs : ResultSet) (start stop : Nat) :
    ∃ before range rest, rs.hits = before ++ range ++ rest ∧
      before.length = min start (min stop rs.size) ∧
      before.length + range.length = min stop rs.size ∧
      Session.refsOfRange rs start stop = range.map (·.ref) := by
  refine ⟨(rs.hits.take stop).take start, (rs.hits.take stop).drop start, rs.hits.drop stop,
    ?split, ?first, ?last, ?refs⟩
  case split => rw [List.take_append_drop, List.take_append_drop]
  case first => rw [List.length_take, List.length_take, size]
  case last => rw [← List.length_append, List.take_append_drop, List.length_take, size]
  case refs => rw [Session.refsOfRange, refs, ← List.map_take, ← List.map_drop]

/-- **The hit for a reference after a pass** is what the pass has made of it. -/
theorem WellFormed.get?_filterMap (hwell : rs.WellFormed) {f : Hit → Option Hit}
    (hf : ∀ h h', f h = some h' → h'.ref = h.ref) {h : Hit} (hh : h ∈ rs.hits) :
    ({ rs with hits := rs.hits.filterMap f } : ResultSet).get? h.ref = f h := by
  refine Option.ext fun x => (hwell.filterMap hf).get?_eq_some_iff.trans ⟨?_, fun hx => ?_⟩
  · rintro ⟨hx, href⟩
    obtain ⟨y, hy, hyx⟩ := List.mem_filterMap.mp hx
    rwa [hwell.eq_of_ref hh hy (href.symm.trans (hf y x hyx))]
  · exact ⟨List.mem_filterMap.mpr ⟨h, hh, hx⟩, hf h x hx⟩

/-! ### The pass over a range -/

/-- The references of a range whose items are to be looked up. -/
def pending (rs : ResultSet) (range : List Hit) : List Reference :=
  (range.map (·.ref)).filter rs.lacksItem

/-- What a lookup for a range does to a hit of the range, and to any other. -/
theorem lookedUp_range (hk : resolver.Keyed) (hwell : rs.WellFormed)
    (hsplit : rs.hits = before ++ range ++ rest) :
    (∀ h ∈ range, h.lookedUp (resolver.found (rs.pending range))
        (resolver.missing (rs.pending range)) = h.resolvedBy resolver) ∧
      ∀ h ∈ before ++ rest, h.lookedUp (resolver.found (rs.pending range))
        (resolver.missing (rs.pending range)) = some h := by
  have hpending : ∀ ref, ref ∈ rs.pending range ↔
      ref ∈ range.map (·.ref) ∧ rs.lacksItem ref = true := fun _ => List.mem_filter
  refine ⟨fun h hh => Hit.lookedUp_eq_resolvedBy hk ?inside,
    fun h hh => Hit.lookedUp_of_notMem_refs hk fun hin => ?outside⟩
  case inside =>
    have hin : h ∈ rs.hits := by
      rw [hsplit]
      simp [hh]
    rw [hpending, hwell.lacksItem_iff hin, and_iff_right (List.mem_map_of_mem hh)]
  case outside =>
    obtain ⟨h', hh', href⟩ := List.mem_map.mp ((hpending h.ref).mp hin).1
    have hdistinct := hwell.distinct
    rw [refs, hsplit, List.map_append, List.map_append, List.nodup_append, List.nodup_append]
      at hdistinct
    obtain ⟨⟨-, -, hbefore⟩, -, hrest⟩ := hdistinct
    rcases List.mem_append.mp hh with hfirst | hlast
    · exact hbefore _ (List.mem_map_of_mem hfirst) _ (List.mem_map_of_mem hh') href.symm
    · exact hrest _ (List.mem_append_right _ (List.mem_map_of_mem hh')) _
        (List.mem_map_of_mem hlast) href

/-- **Materializing a range** is one pass over its hits. -/
theorem materializeRefs_range (hk : resolver.Keyed) (hwell : rs.WellFormed)
    (hsplit : rs.hits = before ++ range ++ rest) :
    Session.materializeRefs resolver (range.map (·.ref)) rs =
      { rs with hits := before ++ range.filterMap (Hit.resolvedBy resolver) ++ rest } := by
  obtain ⟨hrange, hothers⟩ := lookedUp_range hk hwell hsplit
  have hfirst := List.filterMap_congr fun h hh => hothers h (List.mem_append_left rest hh)
  have hlast := List.filterMap_congr fun h hh => hothers h (List.mem_append_right before hh)
  rw [List.filterMap_some] at hfirst hlast
  rw [Session.materializeRefs, ← pending, Session.removeAll_attachAll, hsplit,
    List.filterMap_append, List.filterMap_append, hfirst, hlast, List.filterMap_congr hrange]

/-- Read back by reference, the hits of a range are what the lookup has made of them. -/
theorem shown_lookedUp (resolver : Resolver) (hwell : rs.WellFormed)
    (hvisible : ∀ h ∈ rs.hits, h.isVisible = true) (hrange : ∀ h ∈ range, h ∈ rs.hits) :
    Session.shown (Session.materializeRefs resolver (range.map (·.ref)) rs) (range.map (·.ref)) =
      (range.filterMap (Hit.lookedUp (resolver.found (rs.pending range))
        (resolver.missing (rs.pending range)))).filter (·.item.isSome) := by
  have hback : (range.map (·.ref)).filterMap
      (Session.materializeRefs resolver (range.map (·.ref)) rs).get? =
        range.filterMap (Hit.lookedUp (resolver.found (rs.pending range))
          (resolver.missing (rs.pending range))) := by
    rw [List.filterMap_map, Session.materializeRefs, ← pending, Session.removeAll_attachAll]
    exact List.filterMap_congr fun h hh =>
      hwell.get?_filterMap (fun _ _ => Hit.ref_of_lookedUp) (hrange h hh)
  rw [Session.shown, hback]
  refine List.filter_congr fun h' hh' => ?_
  obtain ⟨h, hh, hlooked⟩ := List.mem_filterMap.mp hh'
  rw [Hit.isVisible, Hit.state_of_lookedUp hlooked, ← Hit.isVisible, hvisible h (hrange h hh),
    Bool.true_and]

/-- **What is shown of a range** are its hits that carry their items after the pass. -/
theorem shown_range (hk : resolver.Keyed) (hwell : rs.WellFormed)
    (hvisible : ∀ h ∈ rs.hits, h.isVisible = true) (hsplit : rs.hits = before ++ range ++ rest) :
    Session.shown (Session.materializeRefs resolver (range.map (·.ref)) rs) (range.map (·.ref)) =
      (range.filterMap (Hit.resolvedBy resolver)).filter (·.item.isSome) := by
  have hin : ∀ h ∈ range, h ∈ rs.hits := by
    intro h hh
    rw [hsplit]
    simp [hh]
  rw [shown_lookedUp resolver hwell hvisible hin,
    List.filterMap_congr (lookedUp_range hk hwell hsplit).1]

end ResultSet

/-! ### Slices -/

/-- Bounds that a list does not have: they are not in order, or beyond its end. -/
structure OutOfBounds where
  start : Nat
  stop : Nat
deriving DecidableEq

/-- **The part of a list between two bounds**, which have to be in order and within the list. -/
def slice {α : Type} (xs : List α) (start stop : Nat) : Except OutOfBounds (List α) :=
  if start ≤ stop ∧ stop ≤ xs.length then .ok ((xs.take stop).drop start)
  else .error ⟨start, stop⟩

/-- The middle of a list is what lies between its bounds. -/
theorem slice_append {α : Type} (before range rest : List α) :
    slice (before ++ range ++ rest) before.length (before.length + range.length) = .ok range := by
  have hbounds : before.length ≤ before.length + range.length ∧
      before.length + range.length ≤ (before ++ range ++ rest).length := by
    simp only [List.length_append]
    omega
  rw [slice, if_pos hbounds, ← List.length_append, List.take_left, List.drop_left]

/-- Bounds that are out of order, and bounds beyond the end. -/
example : slice [0, 1, 2] 2 1 = .error ⟨2, 1⟩ ∧ slice [0, 1, 2] 1 4 = .error ⟨1, 4⟩ :=
  ⟨rfl, rfl⟩

namespace Session

variable {s : Session}

/-- **Materializing by a slice**, which could fail. The bounds are clamped one after the other: the
end to the hits that there are, and the beginning to the end. -/
def materializeSlice (resolver : Resolver) (s : Session) (start stop : Nat) :
    Except OutOfBounds (Except Failure (Session × List Hit)) :=
  if s.isClosed then .ok (.error .sessionClosed)
  else
    let last := min stop s.results.size
    let first := min start last
    (slice s.results.hits first last).map fun range =>
      let refs := range.map (·.ref)
      let results := materializeRefs resolver refs s.results
      .ok ({ s with results }, shown results refs)

/-- **No bound is exceeded**, whatever the session and the range. -/
theorem materializeSlice_eq (resolver : Resolver) (s : Session) (start stop : Nat) :
    s.materializeSlice resolver start stop = .ok (s.materialize resolver start stop) := by
  obtain ⟨before, range, rest, hsplit, hfirst, hlast, hrefs⟩ := s.results.split_range start stop
  rw [materializeSlice, materialize]
  by_cases hclosed : s.isClosed = true
  · rw [if_pos hclosed, if_pos hclosed]
  · have hslice := slice_append before range rest
    rw [hlast, hfirst, ← hsplit] at hslice
    rw [if_neg hclosed, if_neg hclosed]
    simp only [hslice, hrefs]
    rfl

/-- **Materializing a range.** Any two bounds are clamped to the hits that there are, so that the
range is a part of the list, maybe an empty one, and slicing it off does not fail. What is shown are
its hits, in order, that carried an item already or whose lookup succeeds, all with their items.
Afterwards the hits of the range whose items do not exist are gone, those whose lookup succeeds
carry their items, and those whose lookup fails are as they were; the hits before the range and
behind it, all references, scores, tiers, states and attributes, the order and the generation of the
hits, and the session apart from its hits are the same; and the positions are exact. -/
theorem materialize_range (hreachable : s.Reachable) (hopen : s.isClosed = false)
    (hk : resolver.Keyed) (start stop : Nat) :
    ∃ before range rest after shown,
      s.results.hits = before ++ range ++ rest ∧
        before.length = min start (min stop s.results.size) ∧
        before.length + range.length = min stop s.results.size ∧
        s.materializeSlice resolver start stop = .ok (s.materialize resolver start stop) ∧
        s.materialize resolver start stop = .ok (after, shown) ∧
        shown = (range.filterMap (Hit.resolvedBy resolver)).filter (·.item.isSome) ∧
        after = { s with
          results := { s.results with
            hits := before ++ range.filterMap (Hit.resolvedBy resolver) ++ rest } } ∧
        after.results.WellFormed := by
  obtain ⟨before, range, rest, hsplit, hfirst, hlast, hrefs⟩ := s.results.split_range start stop
  have hwell := hreachable.wellFormed
  have hvisible : ∀ h ∈ s.results.hits, h.isVisible = true :=
    fun h hh => (hreachable.coherent.hits h hh).visible
  refine ⟨before, range, rest, _, _, hsplit, hfirst, hlast, s.materializeSlice_eq resolver _ _,
    if_neg (by simp [hopen]), ?shown, ?after, ?exact⟩
  case shown =>
    rw [hrefs]
    exact ResultSet.shown_range hk hwell hvisible hsplit
  case after =>
    rw [hrefs, ResultSet.materializeRefs_range hk hwell hsplit]
  case exact =>
    exact (ResultSet.dwindles_materializeRefs resolver _ s.results).wellFormed hwell

/-- A range that reaches beyond the five hits of a session. Of its hits the first carries its item,
the second has one in the store, the third has none, and the store cannot read that of the fourth.
With the bounds the other way round the range is empty. -/
theorem materialize_range_of_mixed :
    let item : UInt64 → Item := fun n =>
      { ref := ⟨n⟩, feed := "f", guid := "a", title := "A", state := .read, received := 5 }
    let resolver : Resolver := fun ref =>
      if ref = ⟨3⟩ then .ok (item 3)
      else if ref = ⟨5⟩ then .error (.io "unreadable page")
      else .error (.notFound "news item" "c")
    let ranked : UInt64 → RankedHit := fun n =>
      { ref := ⟨n⟩, score := Single.zero, state := .unread, attributes := {} }
    let s := (fresh {} 0).runs
      [(resolver, .issue [{ field := .received, specifier := .isAfter, value := .date 0 }]),
        (resolver, .answer 1 (.ok [ranked 1, ranked 2, ranked 3, ranked 4, ranked 5])),
        (resolver, .lookups 1 [item 2] [])]
    (s.Reachable ∧ s.isClosed = false ∧ resolver.Keyed) ∧
      (∃ before range rest after shown,
        s.results.hits = before ++ range ++ rest ∧ before.length = 1 ∧
          before.length + range.length = 5 ∧ s.materialize resolver 1 9 = .ok (after, shown) ∧
          shown.map (·.ref) = [⟨2⟩, ⟨3⟩] ∧ after.results.refs = [⟨1⟩, ⟨2⟩, ⟨3⟩, ⟨5⟩] ∧
          after.results.WellFormed) ∧
      s.materialize resolver 4 2 = .ok (s, []) := by
  intro item resolver ranked s
  have hreachable : s.Reachable := reachable_runs (.fresh {} 0) _
  have hopen : s.isClosed = false := by decide +kernel
  have hkeyed : resolver.Keyed := by
    intro ref found hfound
    simp only [resolver] at hfound
    split at hfound
    · next href => exact href ▸ Except.ok.inj hfound ▸ rfl
    · split at hfound <;> cases hfound
  have hanswer : ResultSet.replace {} (Hit.classify
      [ranked 1, ranked 2, ranked 3, ranked 4, ranked 5]) =
        { hits := Hit.classify [ranked 1, ranked 2, ranked 3, ranked 4, ranked 5]
          generation := 1 } := by
    rw [ResultSet.replace_of_pairwise (by decide +kernel)]
    rfl
  have hresults : s.results =
      { hits := (Hit.classify [ranked 1, ranked 2, ranked 3, ranked 4, ranked 5]).map fun h =>
          if h.ref = ⟨2⟩ then { h with item := some (item 2) } else h
        generation := 1 } := by
    have hattached : s.results = ((attachAll [item 2] (replayOver resolver ⟨[], []⟩
      (ResultSet.replace {} (Hit.classify
        [ranked 1, ranked 2, ranked 3, ranked 4, ranked 5]))).1).1).removeAll [] := rfl
    rw [hattached, hanswer]
    decide +kernel
  have hsize : s.results.size = 5 := by
    rw [hresults]
    rfl
  have hbeyond : (shown (materializeRefs resolver (refsOfRange s.results 1 9) s.results)
      (refsOfRange s.results 1 9)).map (·.ref) = [⟨2⟩, ⟨3⟩] ∧
        (materializeRefs resolver (refsOfRange s.results 1 9) s.results).refs =
          [⟨1⟩, ⟨2⟩, ⟨3⟩, ⟨5⟩] := by
    rw [hresults]
    decide +kernel
  refine ⟨⟨hreachable, hopen, hkeyed⟩, ?beyond, ?inverted⟩
  case beyond =>
    obtain ⟨before, range, rest, after, shown, hsplit, hfirst, hlast, -, hm, -, -, hexact⟩ :=
      materialize_range hreachable hopen hkeyed 1 9
    rw [hsize] at hfirst hlast
    have hcomputed := hm
    rw [materialize, if_neg (by simp [hopen])] at hcomputed
    obtain ⟨rfl, rfl⟩ := Prod.mk.inj (Except.ok.inj hcomputed)
    exact ⟨before, range, rest, _, _, hsplit, hfirst, hlast, hm, hbeyond.1, hbeyond.2, hexact⟩
  case inverted =>
    clear_value s
    obtain ⟨before, range, rest, after, shown, hsplit, hfirst, hlast, -, hm, rfl, rfl, -⟩ :=
      materialize_range hreachable hopen hkeyed 4 2
    rw [hsize] at hfirst hlast
    obtain rfl : range = [] := List.length_eq_zero_iff.mp (by omega)
    rw [hm, List.filterMap_nil, ← hsplit]
    rfl

end Session

end LiveSearch
