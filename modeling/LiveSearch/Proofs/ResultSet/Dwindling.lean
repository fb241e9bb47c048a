import LiveSearch.Proofs.Reconcile.Batches
import LiveSearch.Proofs.ResultSet.Lookup
import LiveSearch.Proofs.ResultSet.Positions
import LiveSearch.Session.Materialize

/-!
# Result sets that dwindle

Between two answers a result set changes in many ways: events remove hits and refresh them, plans do
so in two passes, lookups attach items and drop hits, and the hits are sorted. All of this comes to
the same. **Hits go, others are given a new version of their item, and they change their places**
(`ResultSet.Dwindles`). What the answer itself has said of a hit, namely its reference, its score
and the tier of the score, is never touched, and no hit is added.

So what holds of the references of a set, and of scores and tiers, is shown for a new answer and
then holds until the next.
-/

namespace LiveSearch

namespace Hit

/-- **One hit is a later form of another**: the answer has said the same of both. -/
structure Continues (h' h : Hit) : Prop where
  ref : h'.ref = h.ref
  score : h'.score = h.score
  tier : h'.tier = h.tier

namespace Continues

variable {h h' h'' : Hit}

theorem refl (h : Hit) : h.Continues h :=
  ⟨rfl, rfl, rfl⟩

theorem trans (h1 : h''.Continues h') (h2 : h'.Continues h) : h''.Continues h :=
  ⟨h1.ref.trans h2.ref, h1.score.trans h2.score, h1.tier.trans h2.tier⟩

end Continues

theorem continues_refreshed (h : Hit) (item : Item) : (h.refreshed item).Continues h :=
  ⟨rfl, rfl, rfl⟩

theorem continues_after {events : List Event} {h h' : Hit} (ha : h.after events = some h') :
    h'.Continues h := by
  rcases after_cases ha with ⟨-, rfl⟩ | ⟨item, -, rfl⟩
  · exact .refl h'
  · exact h.continues_refreshed item

theorem continues_lookedUp {items : List Item} {missing : List Reference} {h h' : Hit}
    (hl : h.lookedUp items missing = some h') : h'.Continues h := by
  rw [lookedUp] at hl
  split at hl
  · cases hl
  · obtain rfl := Option.some.inj hl
    exact ⟨rfl, rfl, rfl⟩

theorem continues_refreshedBy (items : List Item) (h : Hit) :
    (Plan.refreshedBy items h).Continues h := by
  induction items generalizing h with
  | nil => exact .refl h
  | cons item items ih =>
    rw [Plan.refreshedBy, List.foldl_cons]
    split
    · exact (ih (h.refreshed item)).trans (h.continues_refreshed item)
    · exact ih h

end Hit

namespace ResultSet

/-- **The set dwindles**: within one generation hits go, those that stay are later forms of what
they were, and they may change their places. -/
structure Dwindles (rs rs' : ResultSet) : Prop where
  hits : ∃ f : Hit → Option Hit, (∀ h h', f h = some h' → h'.Continues h) ∧
    rs'.hits.Perm (rs.hits.filterMap f)
  generation : rs'.generation = rs.generation

variable {rs rs' rs'' : ResultSet}

namespace Dwindles

/-- One pass over the hits. -/
theorem of_filterMap {f : Hit → Option Hit} (hf : ∀ h h', f h = some h' → h'.Continues h)
    (hhits : rs'.hits = rs.hits.filterMap f) (hgeneration : rs'.generation = rs.generation) :
    rs.Dwindles rs' :=
  ⟨⟨f, hf, hhits ▸ .refl _⟩, hgeneration⟩

/-- Other places. -/
theorem of_perm (hhits : rs'.hits.Perm rs.hits) (hgeneration : rs'.generation = rs.generation) :
    rs.Dwindles rs' := by
  refine ⟨⟨some, fun h h' heq => ?_, by rwa [List.filterMap_some]⟩, hgeneration⟩
  obtain rfl := Option.some.inj heq
  exact .refl h

theorem refl (rs : ResultSet) : rs.Dwindles rs :=
  of_perm (.refl _) rfl

theorem trans (h1 : rs.Dwindles rs') (h2 : rs'.Dwindles rs'') : rs.Dwindles rs'' := by
  obtain ⟨⟨f, hf, hfirst⟩, hg⟩ := h1
  obtain ⟨⟨g, hg', hsecond⟩, hg''⟩ := h2
  refine ⟨⟨fun h => (f h).bind g, fun h h' hboth => ?_, ?_⟩, hg''.trans hg⟩
  · obtain ⟨x, hx, hlast⟩ := Option.bind_eq_some_iff.mp hboth
    exact (hg' x h' hlast).trans (hf h x hx)
  · rw [← List.filterMap_filterMap]
    exact hsecond.trans (hfirst.filterMap g)

/-- No hit is added, and what the answer has said of a hit stays. -/
theorem exists_of_mem (h : rs.Dwindles rs') {x : Hit} (hx : x ∈ rs'.hits) :
    ∃ y ∈ rs.hits, x.Continues y := by
  obtain ⟨⟨f, hf, hperm⟩, -⟩ := h
  obtain ⟨y, hy, heq⟩ := List.mem_filterMap.mp (hperm.mem_iff.mp hx)
  exact ⟨y, hy, hf y x heq⟩

/-- **A set that dwindles stays well-formed.** -/
theorem wellFormed (h : rs.Dwindles rs') (hwell : rs.WellFormed) : rs'.WellFormed := by
  obtain ⟨⟨f, hf, hperm⟩, -⟩ := h
  refine wellFormed_iff.mpr ?_
  rw [refs, (hperm.map (·.ref)).nodup_iff]
  exact hwell.distinct.sublist (sublist_refs_filterMap (fun x y hxy => (hf x y hxy).ref) rs.hits)

end Dwindles

/-! ### What makes a set dwindle -/

theorem dwindles_setOrder (rs : ResultSet) (order : SortOrder) : rs.Dwindles (rs.setOrder order) :=
  .of_perm (.refl _) rfl

theorem dwindles_resort (rs : ResultSet) : rs.Dwindles rs.resort :=
  .of_perm (List.mergeSort_perm _ _) rfl

theorem dwindles_reconcile (events : List Event) (rs : ResultSet) :
    rs.Dwindles (reconcile events rs).1 := by
  rw [reconcile_fst]
  exact .of_filterMap (fun _ _ => Hit.continues_after) rfl rfl

theorem dwindles_reconcileAll (batches : List (List Event)) (rs : ResultSet) :
    rs.Dwindles (reconcileAll batches rs).1 := by
  induction batches generalizing rs with
  | nil => exact .refl rs
  | cons batch rest ih => exact (rs.dwindles_reconcile batch).trans (ih _)

theorem dwindles_apply (p : Plan) (rs : ResultSet) : rs.Dwindles (p.apply rs).1 := by
  rw [Plan.apply_fst]
  refine .of_filterMap (f := fun h =>
    if h.ref ∉ p.removals then some (Plan.refreshedBy p.refreshes h) else none)
    (fun h h' heq => ?_) ?_ rfl
  · split at heq
    · obtain rfl := Option.some.inj heq
      exact h.continues_refreshedBy p.refreshes
    · cases heq
  · simp only [← List.filterMap_eq_map', List.filterMap_filter, decide_eq_true_eq]

theorem dwindles_lookup (items : List Item) (missing : List Reference) (rs : ResultSet) :
    rs.Dwindles ((Session.attachAll items rs).1.removeAll missing) := by
  rw [Session.removeAll_attachAll]
  exact .of_filterMap (fun _ _ => Hit.continues_lookedUp) rfl rfl

theorem dwindles_replayOver (resolver : Resolver) (replay : Replay) (rs : ResultSet) :
    rs.Dwindles (Session.replayOver resolver replay rs).1 :=
  (rs.dwindles_reconcile replay.events).trans (dwindles_reconcile _ _)

theorem dwindles_materializeRefs (resolver : Resolver) (refs : List Reference) (rs : ResultSet) :
    rs.Dwindles (Session.materializeRefs resolver refs rs) :=
  dwindles_lookup _ _ rs

end ResultSet

end LiveSearch
