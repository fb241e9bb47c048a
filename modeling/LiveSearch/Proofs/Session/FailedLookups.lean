import LiveSearch.Proofs.Reconcile.Rechecking
import LiveSearch.Proofs.Session.Acts

/-!
# Lookups that fail

A lookup can say that there is no item, and it can **fail**, which says nothing about the item
(`Resolver.Fails`). A session consults a resolver in four places, and in each of them it may drop
the hit that it looks up:

* the guard over the hits of a query (`retainExisting`), where it is asked for,
* rechecking the references whose events had to give way (`recheck`),
* attaching the items of the first hits (`Session.attachResolved`),
* materializing a range (`Session.materialize`).

The last three drop a hit only if its item does not exist, each in its own way: a failed lookup
amounts to no event (`Resolver.Fails.event?_eq_none`), and nothing goes that was not missed
(`Session.mem_refs_resolve`, `Session.mem_refs_materializeRefs`). The guard asks no more than whether
the lookup succeeds, so that **a failed lookup costs the hit** (`Resolver.Fails.refs_of_session`).
-/

namespace LiveSearch

namespace Resolver

variable {resolver : Resolver} {ref : Reference} {refs : List Reference}

/-- **The lookup fails**, for another reason than that the item does not exist. -/
def Fails (resolver : Resolver) (ref : Reference) : Prop :=
  ∃ e, resolver ref = .error e ∧ e.isNotFound = false

/-- One of the lookups is of another reference, but what it finds is a hidden item under this
one. -/
def Misfiles (resolver : Resolver) (refs : List Reference) (ref : Reference) : Prop :=
  ∃ other ∈ refs, other ≠ ref ∧
    ∃ item, resolver other = .ok item ∧ item.ref = ref ∧ item.isVisible = false

/-- A resolver that is to be trusted does not do this. -/
theorem Keyed.not_misfiles (hk : resolver.Keyed) (refs : List Reference) (ref : Reference) :
    ¬resolver.Misfiles refs ref := by
  rintro ⟨other, -, hne, item, hfound, href, -⟩
  exact hne ((hk other item hfound).symm.trans href)

namespace Fails

theorem finds_eq_false (hfail : resolver.Fails ref) : resolver.finds ref = false := by
  obtain ⟨e, he, -⟩ := hfail
  rw [finds, he]
  rfl

theorem misses_eq_false (hfail : resolver.Fails ref) : resolver.misses ref = false := by
  obtain ⟨e, he, hother⟩ := hfail
  rw [misses, he]
  exact hother

/-- It amounts to no event. -/
theorem event?_eq_none (hfail : resolver.Fails ref) : resolver.event? ref = none := by
  obtain ⟨e, he, hother⟩ := hfail
  rw [event?, he]
  exact if_neg (by simp [hother])

/-! ### The guard -/

/-- **The guard drops the hits** whose lookups fail. -/
theorem ref_ne_of_mem_retainExisting (hfail : resolver.Fails ref) {hits : List RankedHit}
    {h : RankedHit} (hh : h ∈ retainExisting hits resolver) : h.ref ≠ ref := by
  rintro rfl
  have hfinds := (List.mem_filter.mp hh).2
  rw [hfail.finds_eq_false] at hfinds
  cases hfinds

/-- What comes of a query: the hit for the reference is in it unless the guard was asked for. -/
theorem finish_query (hfail : resolver.Fails ref) (sequence : Nat) (hits : List RankedHit)
    (verify : Bool) :
    ∃ kept, (Work.query sequence (.ok hits) verify).finish resolver =
        .answered sequence (.ok kept) ∧
      ∀ h ∈ hits, h.ref = ref → (h ∈ kept ↔ verify = false) := by
  cases verify with
  | false => exact ⟨hits, rfl, fun h hh _ => iff_of_true hh rfl⟩
  | true =>
    refine ⟨retainExisting hits resolver, rfl, fun h _ href => iff_of_false ?_ (by simp)⟩
    exact fun hkept => hfail.ref_ne_of_mem_retainExisting hkept href

/-! ### Rechecking -/

/-- A recheck has its reasons for a removal, and a failed lookup is none: if it asks for the removal
of the hit all the same, then another lookup was misled. -/
theorem misfiles_of_remove (hfail : resolver.Fails ref)
    (hword : Event.lastWord? (refs.filterMap resolver.event?) ref = some .remove) :
    resolver.Misfiles refs ref := by
  obtain ⟨e, he, href, hact⟩ := Event.exists_of_lastWord? hword
  obtain ⟨other, hmem, hev⟩ := List.mem_filterMap.mp he
  have hne : other ≠ ref := by
    rintro rfl
    rw [hfail.event?_eq_none] at hev
    cases hev
  rw [event?] at hev
  split at hev
  · next item hfound =>
    obtain rfl := Option.some.inj hev
    refine ⟨other, hmem, hne, item, hfound, href, ?_⟩
    by_contra hvisible
    rw [Event.action?_updated, if_pos (by simpa using hvisible)] at hact
    cases hact
  -- the item does not exist, but that is said of the reference that was looked up
  · split at hev
    · obtain rfl := Option.some.inj hev
      exact absurd href hne
    · cases hev

theorem mem_refs_recheck (hfail : resolver.Fails ref) (refs : List Reference) {rs : ResultSet}
    (hin : ref ∈ rs.refs) :
    ref ∈ (recheck refs resolver rs).1.refs ∨ resolver.Misfiles refs ref := by
  by_cases hword : Event.lastWord? (recheckEvents refs resolver rs) ref = some .remove
  · obtain ⟨other, hmem, hfound⟩ := hfail.misfiles_of_remove hword
    exact Or.inr ⟨other, (List.mem_filter.mp hmem).1, hfound⟩
  · exact Or.inl (mem_refs_reconcile.mpr ⟨hin, hword⟩)

end Fails

end Resolver

namespace Session

/-! ### Attaching and materializing -/

/-- A lookup drops a hit exactly if it is asked for it and says that there is no item. -/
theorem mem_refs_lookup (resolver : Resolver) (refs : List Reference) (items : List Item)
    (rs : ResultSet) (ref : Reference) :
    ref ∈ (((attachAll items rs).1).removeAll (resolver.missing refs)).refs ↔
      ref ∈ rs.refs ∧ ¬(ref ∈ refs ∧ resolver.misses ref = true) := by
  rw [refs_removeAll_attachAll, List.mem_filter, decide_eq_true_iff, Resolver.missing,
    List.mem_filter]

/-- **Which hits looked-up items leave**: all, if they come too late for the hits that they were
looked up for, and otherwise those that were not missed. -/
theorem mem_refs_resolve (resolver later : Resolver) (s : Session) (generation : Nat)
    (refs : List Reference) (ref : Reference) :
    ref ∈ (s.handleMessage later
        ((Work.resolve generation refs).finish resolver)).session.results.refs ↔
      ref ∈ s.results.refs ∧
        ¬(s.results.generation = generation ∧ ref ∈ refs ∧ resolver.misses ref = true) := by
  show ref ∈ (s.attachResolved generation (resolver.found refs)
    (resolver.missing refs)).session.results.refs ↔ _
  rw [attachResolved]
  split
  · next hg =>
    rw [and_iff_right (a := s.results.generation = generation) hg]
    exact mem_refs_lookup resolver refs (resolver.found refs) s.results ref
  · next hg => exact (and_iff_left fun h => hg h.1).symm

/-- **Which hits materializing a range leaves**: those outside of it, those that carry their items,
and those that were not missed. -/
theorem mem_refs_materializeRefs (resolver : Resolver) (refs : List Reference) (rs : ResultSet)
    (ref : Reference) :
    ref ∈ (materializeRefs resolver refs rs).refs ↔
      ref ∈ rs.refs ∧
        ¬((ref ∈ refs ∧ rs.lacksItem ref = true) ∧ resolver.misses ref = true) := by
  rw [materializeRefs, mem_refs_lookup, List.mem_filter]

/-! ### Answers -/

/-- A session shows nothing that is not in the answer. -/
theorem exists_of_mem_refs_install {resolver : Resolver} {s : Session} {hits : List RankedHit}
    {ref : Reference} (hin : ref ∈ (s.install resolver hits).session.results.refs) :
    ∃ h ∈ hits, h.ref = ref := by
  obtain ⟨hfirst, -⟩ := mem_refs_reconcile.mp hin
  obtain ⟨hreplaced, -⟩ := mem_refs_reconcile.mp hfirst
  obtain ⟨h, hh, -, href⟩ := ResultSet.mem_refs_replace.mp hreplaced
  obtain ⟨ranked, hranked, rfl⟩ := List.mem_map.mp hh
  exact ⟨ranked, hranked, href⟩

/-- What the answer has for the reference is shown, unless the events that arrived meanwhile remove
it: that its lookup fails is no reason. -/
theorem mem_refs_install {resolver : Resolver} {ref : Reference} (hfail : resolver.Fails ref)
    {s : Session} {hits : List RankedHit}
    (hanswer : ∃ h ∈ hits, h.ref = ref ∧ h.state.isVisible = true)
    (hword : Event.lastWord? s.replay.events ref ≠ some .remove) :
    ref ∈ (s.install resolver hits).session.results.refs ∨
      resolver.Misfiles s.replay.evicted ref := by
  obtain ⟨h, hh, rfl, hv⟩ := hanswer
  have hreplaced : h.ref ∈ (s.results.replace (Hit.classify hits)).refs :=
    ResultSet.mem_refs_replace.mpr ⟨_, List.mem_map.mpr ⟨h, hh, rfl⟩, hv, rfl⟩
  exact hfail.mem_refs_recheck s.replay.evicted (mem_refs_reconcile.mpr ⟨hreplaced, hword⟩)

end Session

/-- **What a failed lookup costs.** Let the lookup of a reference fail, but not say that its item
does not exist. Where the guard over the hits of a query is asked for, it drops the hits for the
reference, and the session does not show them. Where it is not asked for, the answer has them all,
and the session shows the reference if one of them is visible and no event that arrived meanwhile
removes it. Neither a recheck, unless another lookup finds a hidden item under this very reference,
nor the arrival of looked-up items nor materializing a range takes the reference out of the hits. -/
theorem Resolver.Fails.refs_of_session {resolver : Resolver} {ref : Reference}
    (hfail : resolver.Fails ref) (s : Session) (later : Resolver) :
    (∀ sequence hits verify, ∃ kept,
      (Work.query sequence (.ok hits) verify).finish resolver = .answered sequence (.ok kept) ∧
        ∀ h ∈ hits, h.ref = ref → (h ∈ kept ↔ verify = false)) ∧
    (s.phase = .running → ∀ hits,
      ref ∉ (s.handleMessage later
        ((Work.query s.sequence (.ok hits) true).finish resolver)).session.results.refs ∧
      ((∃ h ∈ hits, h.ref = ref ∧ h.state.isVisible = true) →
        Event.lastWord? s.replay.events ref ≠ some .remove →
          ref ∈ (s.handleMessage resolver
            ((Work.query s.sequence (.ok hits) false).finish resolver)).session.results.refs ∨
          resolver.Misfiles s.replay.evicted ref)) ∧
    (∀ refs rs, ref ∈ rs.refs →
      ref ∈ (recheck refs resolver rs).1.refs ∨ resolver.Misfiles refs ref) ∧
    (ref ∈ s.results.refs → ∀ generation refs,
      ref ∈ (s.handleMessage later
        ((Work.resolve generation refs).finish resolver)).session.results.refs) ∧
    (ref ∈ s.results.refs → s.isClosed = false → ∀ start stop, ∃ after shown,
      s.materialize resolver start stop = .ok (after, shown) ∧ ref ∈ after.results.refs) := by
  have hnot : ¬resolver.misses ref = true := by
    simp [hfail.misses_eq_false]
  refine ⟨hfail.finish_query, fun hrun hits => ⟨?guarded, ?unguarded⟩,
    fun refs rs => hfail.mem_refs_recheck refs, ?resolved, ?materialized⟩
  case guarded =>
    intro hin
    have hinstalled : ref ∈
        (s.install later (retainExisting hits resolver)).session.results.refs := by
      rwa [← Session.complete_ok hrun]
    obtain ⟨h, hh, href⟩ := Session.exists_of_mem_refs_install hinstalled
    exact hfail.ref_ne_of_mem_retainExisting hh href
  case unguarded =>
    intro hanswer hword
    show ref ∈ (s.complete resolver s.sequence (.ok hits)).session.results.refs ∨ _
    rw [Session.complete_ok hrun]
    exact Session.mem_refs_install hfail hanswer hword
  case resolved =>
    intro hin generation refs
    exact (Session.mem_refs_resolve resolver later s generation refs ref).mpr
      ⟨hin, fun hmissed => hnot hmissed.2.2⟩
  case materialized =>
    intro hin hopen start stop
    refine ⟨_, _, if_neg (by simp [hopen]), ?_⟩
    exact (Session.mem_refs_materializeRefs resolver _ s.results ref).mpr
      ⟨hin, fun hmissed => hnot hmissed.2⟩

/-- A store that cannot read one of its items. Of the three hits the first is for this item, the
item of the second is there and that of the third is not. -/
theorem Resolver.Fails.refs_of_session_of_outage :
    let item : Item :=
      { ref := ⟨2⟩, feed := "f", guid := "b", title := "B", state := .read, received := 5 }
    let resolver : Resolver := fun ref =>
      if ref = ⟨1⟩ then .error (.io "unreadable page")
      else if ref = item.ref then .ok item else .error (.notFound "news item" "c")
    let ranked : UInt64 → RankedHit := fun n =>
      { ref := ⟨n⟩, score := Single.zero, state := .unread, attributes := {} }
    let rs : ResultSet := { hits := Hit.classify [ranked 1, ranked 2, ranked 3], generation := 7 }
    let s : Session := { Session.fresh {} 0 with results := rs, sequence := 3, phase := .running }
    resolver.Fails ⟨1⟩ ∧ resolver.Keyed ∧
      ⟨1⟩ ∉ (s.handleMessage resolver ((Work.query 3 (.ok [ranked 1, ranked 2]) true).finish
        resolver)).session.results.refs ∧
      ⟨1⟩ ∈ (s.handleMessage resolver ((Work.query 3 (.ok [ranked 1, ranked 2]) false).finish
        resolver)).session.results.refs ∧
      ⟨1⟩ ∈ (recheck [⟨1⟩, ⟨2⟩, ⟨3⟩] resolver rs).1.refs ∧
      ⟨1⟩ ∈ (s.handleMessage resolver
        ((Work.resolve 7 [⟨1⟩, ⟨2⟩, ⟨3⟩]).finish resolver)).session.results.refs ∧
      ∃ after shown, s.materialize resolver 0 3 = .ok (after, shown) ∧
        ⟨1⟩ ∈ after.results.refs := by
  intro item resolver ranked rs s
  have hfail : resolver.Fails ⟨1⟩ := ⟨.io "unreadable page", rfl, rfl⟩
  have hkeyed : resolver.Keyed := by
    intro ref found hfound
    simp only [resolver] at hfound
    split at hfound
    · cases hfound
    · split at hfound
      · next href => exact href ▸ Except.ok.inj hfound ▸ rfl
      · cases hfound
  have hin : (⟨1⟩ : Reference) ∈ rs.refs := by decide
  obtain ⟨-, hanswered, hrechecked, hresolved, hmaterialized⟩ :=
    Resolver.Fails.refs_of_session hfail s resolver
  obtain ⟨hguarded, hunguarded⟩ := hanswered rfl [ranked 1, ranked 2]
  have hanswer : ∃ h ∈ [ranked 1, ranked 2], h.ref = ⟨1⟩ ∧ h.state.isVisible = true :=
    ⟨ranked 1, by simp, rfl, rfl⟩
  exact ⟨hfail, hkeyed, hguarded,
    (hunguarded hanswer (by decide)).resolve_right (hkeyed.not_misfiles _ _),
    (hrechecked _ rs hin).resolve_right (hkeyed.not_misfiles _ _),
    hresolved hin _ _, hmaterialized hin rfl 0 3⟩

end LiveSearch
