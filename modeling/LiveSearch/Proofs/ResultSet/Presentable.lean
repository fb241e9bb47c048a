import LiveSearch.Proofs.Reconcile.Batches
import LiveSearch.Proofs.ResultSet.Lookup
import LiveSearch.Proofs.ResultSet.Replace
import LiveSearch.Session.Materialize

/-!
# Hits that can be shown

A hit is **presentable** (`Hit.Presentable`) if it is in a visible state and carries, if any, an
item of its own reference. A new answer brings presentable hits only, and everything that changes a
single hit keeps it presentable: a refresh shows a visible version of its item, and a lookup is
attached to the hit of its reference. It does not matter what membership a plan was made against,
nor what a resolver finds.
-/

namespace LiveSearch

/-- **The hit can be shown**: its state is visible, and the item that it carries, if any, is its
own. -/
structure Hit.Presentable (h : Hit) : Prop where
  visible : h.isVisible = true
  own : ∀ v, h.item = some v → v.ref = h.ref

namespace Hit.Presentable

variable {h h' : Hit}

theorem refreshed (h : Hit) {item : Item} (href : item.ref = h.ref) (hv : item.isVisible = true) :
    (h.refreshed item).Presentable := by
  refine ⟨hv, fun v hsome => ?_⟩
  obtain rfl : item = v := Option.some.inj hsome
  exact href

theorem after {events : List Event} (hp : h.Presentable) (ha : h.after events = some h') :
    h'.Presentable := by
  rcases Hit.after_cases ha with ⟨-, rfl⟩ | ⟨item, hword, rfl⟩
  · exact hp
  · obtain ⟨href, hv⟩ := Event.ref_of_lastWord?_refresh hword
    exact refreshed h href hv

theorem refreshedBy {items : List Item} (hp : h.Presentable)
    (hv : ∀ v ∈ items, v.isVisible = true) : (Plan.refreshedBy items h).Presentable := by
  induction items generalizing h with
  | nil => exact hp
  | cons item items ih =>
    have hrest : ∀ v ∈ items, v.isVisible = true := fun v hmem => hv v (List.mem_cons_of_mem _ hmem)
    rw [Plan.refreshedBy, List.foldl_cons]
    split
    · next href => exact ih (refreshed h href.symm (hv item List.mem_cons_self)) hrest
    · exact ih hp hrest

theorem attachedBy (hp : h.Presentable) (items : List Item) :
    (Session.attachedBy items h).Presentable := by
  rcases Session.attachedBy_cases items h with heq | ⟨-, v, -, href, heq⟩
  · rw [heq]
    exact hp
  · rw [heq]
    refine ⟨hp.visible, fun u hu => ?_⟩
    obtain rfl : v = u := Option.some.inj hu
    exact href

end Hit.Presentable

namespace ResultSet

/-- All hits of the set can be shown. -/
def Presentable (rs : ResultSet) : Prop :=
  ∀ h ∈ rs.hits, h.Presentable

theorem presentable_of_hits_nil {rs : ResultSet} (h : rs.hits = []) : rs.Presentable := by
  intro x hx
  rw [h] at hx
  cases hx

/-- The hits of a new answer carry nothing yet, and those that are not visible are dropped. -/
theorem presentable_replace (rs : ResultSet) (hits : List RankedHit) :
    (rs.replace (Hit.classify hits)).Presentable := by
  intro h hh
  obtain ⟨hmem, hv⟩ := mem_of_mem_replace hh
  obtain ⟨hit, -, rfl⟩ := List.mem_map.mp hmem
  refine ⟨hv, fun v hsome => ?_⟩
  cases hsome

namespace Presentable

variable {rs : ResultSet}

theorem resort (h : rs.Presentable) : rs.resort.Presentable :=
  fun x hx => h x (List.mem_mergeSort.mp hx)

theorem removeAll (h : rs.Presentable) (refs : List Reference) : (rs.removeAll refs).Presentable :=
  fun x hx => h x (List.mem_filter.mp hx).1

theorem attachAll (h : rs.Presentable) (items : List Item) :
    (Session.attachAll items rs).1.Presentable := by
  rw [Session.attachAll_fst]
  intro x hx
  obtain ⟨y, hy, rfl⟩ := List.mem_map.mp hx
  exact (h y hy).attachedBy items

theorem reconcile (h : rs.Presentable) (events : List Event) :
    (reconcile events rs).1.Presentable := by
  intro x hx
  obtain ⟨y, hy, ha⟩ := mem_reconcile.mp hx
  exact (h y hy).after ha

theorem reconcileAll (h : rs.Presentable) (batches : List (List Event)) :
    (reconcileAll batches rs).1.Presentable := by
  intro x hx
  obtain ⟨y, hy, ha⟩ := exists_of_mem_reconcileAll hx
  exact (h y hy).after ha

/-- The plan of a batch keeps hits presentable, whatever it was made against. -/
theorem applyPlan (h : rs.Presentable) (events : List Event) (isMember : Reference → Bool) :
    ((Plan.ofEvents events isMember).apply rs).1.Presentable := by
  rw [Plan.apply_fst]
  intro x hx
  obtain ⟨y, hy, rfl⟩ := List.mem_map.mp hx
  refine (h y (List.mem_filter.mp hy).1).refreshedBy fun v hv => ?_
  obtain ⟨-, hword⟩ := Plan.mem_refreshes_ofEvents.mp hv
  exact (Event.ref_of_lastWord?_refresh hword).2

theorem replayOver (h : rs.Presentable) (resolver : Resolver) (replay : Replay) :
    (Session.replayOver resolver replay rs).1.Presentable :=
  (h.reconcile replay.events).reconcile _

theorem materializeRefs (h : rs.Presentable) (resolver : Resolver) (refs : List Reference) :
    (Session.materializeRefs resolver refs rs).Presentable :=
  (h.attachAll _).removeAll _

end Presentable

end ResultSet

end LiveSearch
