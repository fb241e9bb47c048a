import LiveSearch.Proofs.Reconcile.Effect
import LiveSearch.Proofs.ResultSet.Positions

/-!
# What reconciling counts

An outcome is counted on the way: the removals by the sizes before and after, the refreshes one item
of the plan after the other. In a set that has one hit for each reference it can be read off the
hits (`Plan.apply_ofEvents_snd`): **as many are removed, and as many refreshed, as there are hits on
whose reference the last word is a removal, or a refresh**. Neither the order of the events nor how
often they repeat themselves comes into it, nor what else the plan was made for; so a plan counts
what reconciling on the spot counts (`reconcile_snd`).
-/

namespace LiveSearch

namespace Event

/-- Do the events, taken together, remove the hit for a reference? -/
def removes (events : List Event) (ref : Reference) : Bool :=
  lastWord? events ref = some .remove

/-- Do the events, taken together, refresh the hit for a reference? -/
def refreshes (events : List Event) (ref : Reference) : Bool :=
  ((lastWord? events ref).bind Plan.refreshOf?).isSome

theorem removes_iff {events : List Event} {ref : Reference} :
    removes events ref = true ↔ lastWord? events ref = some .remove := by
  rw [removes, decide_eq_true_iff]

theorem refreshes_iff {events : List Event} {ref : Reference} :
    refreshes events ref = true ↔ ∃ item, lastWord? events ref = some (.refresh item) := by
  rw [refreshes, Option.isSome_iff_exists]
  constructor
  · rintro ⟨item, h⟩
    obtain ⟨a, ha, hitem⟩ := Option.bind_eq_some_iff.mp h
    cases a with
    | remove => cases hitem
    | refresh v => exact ⟨v, ha⟩
  · rintro ⟨item, h⟩
    exact ⟨item, by rw [h]; rfl⟩

end Event

/-! ### No reference twice -/

/-- Leaving repetitions out leaves none. -/
theorem nodup_eraseDups {α : Type} [BEq α] [LawfulBEq α] : ∀ l : List α, l.eraseDups.Nodup
  | [] => List.nodup_nil
  | x :: xs => by
    rw [List.eraseDups_cons, List.nodup_cons]
    refine ⟨fun hmem => ?_, nodup_eraseDups (xs.filter fun b => !b == x)⟩
    have hne := (List.mem_filter.mp (List.mem_eraseDups.mp hmem)).2
    simp at hne
  termination_by l => l.length
  decreasing_by
    rw [List.length_cons]
    exact Nat.lt_succ_of_le (List.length_filter_le _ _)

/-! ### Counting a plan -/

namespace Plan

variable {events : List Event} {isMember : Reference → Bool}

/-- Refreshing does not change which hits are there. -/
theorem contains_refresh (rs : ResultSet) (item : Item) :
    (rs.refresh item).contains = rs.contains := by
  have hrefs : (rs.refresh item).refs = rs.refs := by
    rw [ResultSet.refs, ResultSet.refs, ResultSet.refresh, ResultSet.modify, List.map_map]
    refine List.map_congr_left fun h _ => ?_
    by_cases href : h.ref = item.ref <;> simp [href]
  rw [ResultSet.contains_eq_decide_mem_refs, ResultSet.contains_eq_decide_mem_refs, hrefs]

/-- A refresh counts if there is a hit for it. -/
theorem refreshAll_snd (items : List Item) (rs : ResultSet) :
    (refreshAll items rs).2 = items.countP fun item => rs.contains item.ref := by
  induction items generalizing rs with
  | nil => rfl
  | cons item items ih =>
    have hrest := ih (rs.refresh item)
    rw [contains_refresh] at hrest
    rw [List.countP_cons, ← hrest]
    show (if rs.contains item.ref then (refreshAll items (rs.refresh item)).2 + 1
      else (refreshAll items (rs.refresh item)).2) = _
    by_cases hin : rs.contains item.ref <;> simp [hin]

/-- A plan refreshes no reference twice. -/
theorem nodup_refreshes : ((ofEvents events isMember).refreshes.map (·.ref)).Nodup := by
  have hkeyed : (ofEvents events isMember).refreshes.map (·.ref) =
      (touched (actions events isMember)).filterMap fun ref =>
        ((lastAction? (actions events isMember) ref).bind refreshOf?).map (·.ref) := by
    simp only [ofEvents, List.map_filterMap, List.filterMap_map]
    rfl
  rw [hkeyed]
  refine List.Nodup.filterMap ?_ (nodup_eraseDups _)
  -- an item is planned only under its own reference
  have hown : ∀ ref b, b ∈ ((lastAction? (actions events isMember) ref).bind refreshOf?).map
      (·.ref) → b = ref := by
    intro ref b hb
    obtain ⟨item, hitem, rfl⟩ := Option.map_eq_some_iff.mp hb
    obtain ⟨a, ha, hshown⟩ := Option.bind_eq_some_iff.mp hitem
    rw [lastAction?_actions] at ha
    split at ha
    · cases a with
      | remove => cases hshown
      | refresh v =>
        obtain rfl : v = item := Option.some.inj hshown
        exact (Event.ref_of_lastWord?_refresh ha).1
    · cases ha
  intro ref ref' b hb hb'
  exact (hown ref b hb).symm.trans (hown ref' b hb')

/-- The plan of a batch removes as many hits as there are to be removed. -/
theorem removed_apply {rs : ResultSet} (hmem : ∀ h ∈ rs.hits, isMember h.ref = true) :
    ((ofEvents events isMember).apply rs).2.removed =
      rs.hits.countP fun h => Event.removes events h.ref := by
  have hremoved : ∀ h ∈ rs.hits, (h.ref ∉ (ofEvents events isMember).removals ↔
      ¬Event.removes events h.ref = true) := by
    intro h hh
    rw [mem_removals_ofEvents, Event.removes_iff]
    simp [hmem h hh]
  have hsplit := List.length_eq_countP_add_countP (fun h : Hit => Event.removes events h.ref)
    (l := rs.hits)
  have hkept : (rs.removeAll (ofEvents events isMember).removals).hits.length =
      rs.hits.countP fun h => decide ¬Event.removes events h.ref = true := by
    rw [ResultSet.removeAll, ← List.countP_eq_length_filter]
    refine List.countP_congr fun h hh => ?_
    rw [decide_eq_true_iff, decide_eq_true_iff]
    exact hremoved h hh
  show rs.hits.length - (rs.removeAll _).hits.length = _
  rw [hkept]
  omega

/-- The plan of a batch refreshes as many hits as there are to be refreshed. What it plans for
references that have no hit does not count. -/
theorem refreshed_apply {rs : ResultSet} (hmem : ∀ h ∈ rs.hits, isMember h.ref = true)
    (hnodup : rs.refs.Nodup) :
    ((ofEvents events isMember).apply rs).2.refreshed =
      rs.hits.countP fun h => Event.refreshes events h.ref := by
  set p := ofEvents events isMember with hp
  -- a refresh of the plan finds its hit if there was one, since the plan does not remove it
  have hfound : ∀ item ∈ p.refreshes,
      ((rs.removeAll p.removals).contains item.ref = true ↔ item.ref ∈ rs.refs) := by
    intro item hitem
    obtain ⟨-, hword⟩ := mem_refreshes_ofEvents.mp hitem
    have hkeep : item.ref ∉ p.removals := by
      rw [hp, mem_removals_ofEvents, hword]
      simp
    rw [ResultSet.contains_iff, ResultSet.mem_refs]
    constructor
    · rintro ⟨h, hh, href⟩
      exact ⟨h, (List.mem_filter.mp hh).1, href⟩
    · rintro ⟨h, hh, href⟩
      exact ⟨h, List.mem_filter.mpr ⟨hh, decide_eq_true (href ▸ hkeep)⟩, href⟩
  have hall : (p.apply rs).2.refreshed =
      (p.refreshes.filter fun item => item.ref ∈ rs.refs).length := by
    show (refreshAll p.refreshes (rs.removeAll p.removals)).2 = _
    rw [refreshAll_snd, ← List.countP_eq_length_filter]
    refine List.countP_congr fun item hitem => ?_
    rw [hfound item hitem, decide_eq_true_iff]
  -- the references that it plans for and finds are those of the hits that it refreshes
  have hrefs : ((p.refreshes.filter fun item => item.ref ∈ rs.refs).map (·.ref)).Perm
      ((rs.hits.filter fun h => Event.refreshes events h.ref).map (·.ref)) := by
    refine (List.perm_ext_iff_of_nodup (nodup_refreshes.sublist (List.filter_sublist.map _))
      (hnodup.sublist (List.filter_sublist.map _))).mpr fun ref => ?_
    constructor
    · intro hin
      obtain ⟨item, hitem, rfl⟩ := List.mem_map.mp hin
      obtain ⟨hplanned, hin⟩ := List.mem_filter.mp hitem
      obtain ⟨-, hword⟩ := mem_refreshes_ofEvents.mp hplanned
      obtain ⟨h, hh, href⟩ := ResultSet.mem_refs.mp (of_decide_eq_true hin)
      refine List.mem_map.mpr ⟨h, List.mem_filter.mpr ⟨hh, ?_⟩, href⟩
      exact Event.refreshes_iff.mpr ⟨item, by rw [href]; exact hword⟩
    · intro hin
      obtain ⟨h, hh, rfl⟩ := List.mem_map.mp hin
      obtain ⟨hin, hfresh⟩ := List.mem_filter.mp hh
      obtain ⟨item, hword⟩ := Event.refreshes_iff.mp hfresh
      obtain ⟨href, -⟩ := Event.ref_of_lastWord?_refresh hword
      refine List.mem_map.mpr ⟨item, List.mem_filter.mpr ⟨?_, decide_eq_true ?_⟩, href⟩
      · rw [mem_refreshes_ofEvents, href]
        exact ⟨hmem h hin, hword⟩
      · exact ResultSet.mem_refs.mpr ⟨h, hin, href.symm⟩
  rw [hall, List.countP_eq_length_filter]
  simpa using hrefs.length_eq

/-- **What the plan of a batch counts**, where no reference has two hits. It is the same for every
membership that holds for the references of the set. -/
theorem apply_ofEvents_snd {rs : ResultSet} (hmem : ∀ h ∈ rs.hits, isMember h.ref = true)
    (hnodup : rs.refs.Nodup) :
    ((ofEvents events isMember).apply rs).2 =
      { removed := rs.hits.countP fun h => Event.removes events h.ref
        refreshed := rs.hits.countP fun h => Event.refreshes events h.ref } := by
  rw [← removed_apply hmem, ← refreshed_apply hmem hnodup]

end Plan

/-! ### Counting what reconciling does -/

variable {events : List Event} {rs : ResultSet}

/-- As many hits are removed as there are hits to be removed. -/
theorem removed_reconcile (events : List Event) (rs : ResultSet) :
    (reconcile events rs).2.removed = rs.hits.countP fun h => Event.removes events h.ref :=
  Plan.removed_apply fun _ hh => ResultSet.contains_of_mem hh

/-- As many hits are refreshed as there are hits to be refreshed. -/
theorem refreshed_reconcile (hnodup : rs.refs.Nodup) :
    (reconcile events rs).2.refreshed = rs.hits.countP fun h => Event.refreshes events h.ref :=
  Plan.refreshed_apply (fun _ hh => ResultSet.contains_of_mem hh) hnodup

/-- **What reconciling counts**, where no reference has two hits. -/
theorem reconcile_snd (hnodup : rs.refs.Nodup) :
    (reconcile events rs).2 =
      { removed := rs.hits.countP fun h => Event.removes events h.ref
        refreshed := rs.hits.countP fun h => Event.refreshes events h.ref } :=
  Plan.apply_ofEvents_snd (fun _ hh => ResultSet.contains_of_mem hh) hnodup

/-- The hits that are left have different references, if they had before. -/
theorem nodup_refs_reconcile (hnodup : rs.refs.Nodup) : (reconcile events rs).1.refs.Nodup := by
  rw [reconcile_fst]
  exact hnodup.sublist (ResultSet.sublist_refs_filterMap (fun _ _ => Hit.ref_of_after) rs.hits)

end LiveSearch
