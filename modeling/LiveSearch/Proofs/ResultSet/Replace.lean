import LiveSearch.ResultSet

/-!
# The hits of a new answer

An answer replaces the hits as a whole. It keeps the visible ones, of each reference the first, and
sorts them; nothing is made up on the way.
-/

namespace LiveSearch.ResultSet

theorem mem_firstOfEach {hits : List Hit} {h : Hit} (hh : h ∈ firstOfEach hits) : h ∈ hits := by
  induction hits with
  | nil => exact hh
  | cons first rest ih =>
    rw [firstOfEach] at hh
    rcases List.mem_cons.mp hh with rfl | hmem
    · exact List.mem_cons_self
    · exact List.mem_cons_of_mem _ (ih (List.mem_filter.mp hmem).1)

/-- Every reference keeps one of its hits. -/
theorem exists_mem_firstOfEach {hits : List Hit} {h : Hit} (hh : h ∈ hits) :
    ∃ h' ∈ firstOfEach hits, h'.ref = h.ref := by
  induction hits with
  | nil => simp at hh
  | cons first rest ih =>
    rw [firstOfEach]
    by_cases hfirst : h.ref = first.ref
    · exact ⟨first, List.mem_cons_self, hfirst.symm⟩
    · rcases List.mem_cons.mp hh with rfl | hmem
      · exact absurd rfl hfirst
      · obtain ⟨h', hh', href⟩ := ih hmem
        refine ⟨h', List.mem_cons_of_mem _ (List.mem_filter.mpr ⟨hh', ?_⟩), href⟩
        simpa [href] using hfirst

/-- The hits of a new answer are visible hits of the answer. -/
theorem mem_of_mem_replace {rs : ResultSet} {hits : List Hit} {h : Hit}
    (hh : h ∈ (rs.replace hits).hits) : h ∈ hits ∧ h.isVisible = true := by
  have hsorted : h ∈ firstOfEach (hits.filter Hit.isVisible) := List.mem_mergeSort.mp hh
  exact List.mem_filter.mp (mem_firstOfEach hsorted)

/-- A reference is in the set after a new answer exactly if the answer has a visible hit for it. -/
theorem mem_refs_replace {rs : ResultSet} {hits : List Hit} {ref : Reference} :
    ref ∈ (rs.replace hits).refs ↔ ∃ h ∈ hits, h.isVisible = true ∧ h.ref = ref := by
  constructor
  · intro hmem
    obtain ⟨h, hh, rfl⟩ := List.mem_map.mp hmem
    obtain ⟨hin, hv⟩ := mem_of_mem_replace hh
    exact ⟨h, hin, hv, rfl⟩
  · rintro ⟨h, hh, hv, rfl⟩
    obtain ⟨h', hh', href⟩ := exists_mem_firstOfEach (List.mem_filter.mpr ⟨hh, hv⟩)
    exact List.mem_map.mpr ⟨h', List.mem_mergeSort.mpr hh', href⟩

/-- The first hits of some references are for different references. -/
theorem nodup_firstOfEach (hits : List Hit) : ((firstOfEach hits).map (·.ref)).Nodup := by
  induction hits with
  | nil => exact List.nodup_nil
  | cons h rest ih =>
    rw [firstOfEach, List.map_cons, List.nodup_cons]
    refine ⟨fun hmem => ?_, ih.sublist (List.filter_sublist.map _)⟩
    obtain ⟨h', hh', href⟩ := List.mem_map.mp hmem
    have hne := (List.mem_filter.mp hh').2
    simp [href] at hne

/-- **The hit that is kept of a reference** is its first. -/
theorem find?_firstOfEach (hits : List Hit) (ref : Reference) :
    (firstOfEach hits).find? (·.ref = ref) = hits.find? (·.ref = ref) := by
  induction hits with
  | nil => rfl
  | cons h rest ih =>
    rw [firstOfEach]
    by_cases href : h.ref = ref
    · rw [List.find?_cons_of_pos (by simpa using href),
        List.find?_cons_of_pos (by simpa using href)]
    · rw [List.find?_cons_of_neg (by simpa using href),
        List.find?_cons_of_neg (by simpa using href), ← ih, List.find?_filter]
      refine congrArg (fun p => List.find? p (firstOfEach rest)) (funext fun x => ?_)
      by_cases hx : x.ref = ref
      · simp [hx, Ne.symm href]
      · simp [hx]

/-- **A new answer shows one hit for each reference.** -/
theorem nodup_refs_replace (rs : ResultSet) (hits : List Hit) : (rs.replace hits).refs.Nodup := by
  have hfirst := nodup_firstOfEach (hits.filter Hit.isVisible)
  have hperm : ((rs.replace hits).hits.map (·.ref)).Perm
      ((firstOfEach (hits.filter Hit.isVisible)).map (·.ref)) :=
    (List.mergeSort_perm _ _).map _
  exact hperm.nodup_iff.mpr hfirst

@[simp] theorem generation_replace (rs : ResultSet) (hits : List Hit) :
    (rs.replace hits).generation = rs.generation + 1 := rfl

/-- Hits that are in order already keep their places. -/
theorem replace_of_pairwise {rs : ResultSet} {hits : List Hit}
    (hsorted : (firstOfEach (hits.filter Hit.isVisible)).Pairwise fun a b => rs.order.le a b) :
    rs.replace hits =
      { rs with
        hits := firstOfEach (hits.filter Hit.isVisible)
        generation := rs.generation + 1 } := by
  rw [replace, resort]
  exact congrArg (fun hits => { rs with hits, generation := rs.generation + 1 })
    (List.mergeSort_of_pairwise hsorted)

theorem replace_singleton {h : Hit} (hv : h.isVisible = true) (rs : ResultSet) :
    rs.replace [h] = { rs with hits := [h], generation := rs.generation + 1 } := by
  simp [replace, resort, firstOfEach, SortOrder.sort, hv]

end LiveSearch.ResultSet
