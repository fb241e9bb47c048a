import LiveSearch.Proofs.Reconcile.Latest
import LiveSearch.Proofs.Reconcile.Tally
import LiveSearch.Proofs.ResultSet.Positions

/-!
# Plans against an outdated membership

A large batch is planned apart from the result set, against the references that had a hit when the
planning began. When the plan arrives some of the hits may be gone. It does not matter
(`Plan.effect_of_members`): whatever the membership was, as long as it holds for the references that
still have a hit, **the plan does what reconciling on the spot would do**. Each hit is judged by the
latest event about its reference – it goes if that is a removal, shows the new version if it is a
refresh, and stays as it is if no event concerns it – and what the plan counts is what it has done.
-/

namespace LiveSearch

/-! ### Hits and their latest events -/

namespace Event

theorem removes_eq (events : List Event) (ref : Reference) :
    removes events ref = (latest? events ref).any isRemoval := by
  rw [removes, lastWord?_eq_bind]
  cases latest? events ref <;> rfl

theorem refreshes_eq (events : List Event) (ref : Reference) :
    refreshes events ref = (latest? events ref).any isRefresh := by
  rw [refreshes, lastWord?_eq_bind]
  cases latest? events ref with
  | none => rfl
  | some e =>
    rw [Option.bind_some, Option.any_some, isRefresh]
    cases e.action? with
    | none => rfl
    | some a => cases a <;> rfl

end Event

/-- **A hit is judged by the latest event about its reference.** -/
theorem Hit.after_eq (events : List Event) (h : Hit) :
    h.after events = if (Event.latest? events h.ref).any Event.isRemoval then none
      else some (((Event.latest? events h.ref).bind (·.snapshot)).elim h h.refreshed) := by
  rw [after, Event.lastWord?_eq_bind]
  cases hlatest : Event.latest? events h.ref with
  | none => rfl
  | some e =>
    have hwell := (Event.concerns_iff.mp (Event.concerns_of_latest? hlatest)).2
    rw [Option.bind_some, Option.bind_some, Option.any_some]
    by_cases hremoval : e.isRemoval
    · have hact : e.action? = some .remove := of_decide_eq_true hremoval
      rw [hact, if_pos hremoval]
    · have hrefresh : e.isRefresh = true := by
        rw [Event.isRefresh_eq_not_isRemoval hwell]
        simpa using hremoval
      obtain ⟨v, hsnap, -, hact⟩ := Event.action?_of_isRefresh hrefresh
      rw [hact, hsnap, if_neg hremoval]
      rfl

/-- The hits that events leave, in two steps: those stay whose latest event is no removal, and then
each shows what its latest event shows. -/
theorem filterMap_after (events : List Event) (hits : List Hit) :
    hits.filterMap (Hit.after events) =
      (hits.filter fun h => !(Event.latest? events h.ref).any Event.isRemoval).map fun h =>
        ((Event.latest? events h.ref).bind (·.snapshot)).elim h h.refreshed := by
  rw [← List.filterMap_eq_map', List.filterMap_filter]
  refine List.filterMap_congr fun h _ => ?_
  rw [Hit.after_eq]
  by_cases hremoval : (Event.latest? events h.ref).any Event.isRemoval <;> simp [hremoval]

/-! ### What a plan does -/

namespace Plan

/-- **What the plan of a batch does to a set**, whatever membership it was made against that holds
for the references of the set. It leaves the hits in their order, without those whose latest event
is a removal; each of the others shows the snapshot of its latest event, if there is one; scores,
tiers, the order and the generation stay. It counts the hits that it has removed and refreshed.
Malformed events are skipped and counted whatever the membership is, and all is as if the batch were
reconciled with the set on the spot. -/
theorem effect_of_members {rs : ResultSet} (hwell : rs.WellFormed) (events : List Event)
    {isMember : Reference → Bool} (hmember : ∀ ref ∈ rs.refs, isMember ref = true) :
    let plan := ofEvents events isMember
    let latest := fun h : Hit => Event.latest? events h.ref
    (plan.apply rs).1 =
        { rs with
          hits := (rs.hits.filter fun h => !(latest h).any Event.isRemoval).map fun h =>
            match (latest h).bind (·.snapshot) with
            | none => h
            | some v =>
              { h with state := v.state, attributes := Attributes.ofItem v, item := some v } } ∧
      (plan.apply rs).1.WellFormed ∧
      (plan.apply rs).2 =
        { removed := rs.hits.countP fun h => (latest h).any Event.isRemoval
          refreshed := rs.hits.countP fun h => (latest h).any Event.isRefresh } ∧
      (∀ others, (ofEvents events others).skipped = events.countP Event.isMalformed) ∧
      plan.apply rs = reconcile events rs := by
  intro plan latest
  have hmem : ∀ h ∈ rs.hits, isMember h.ref = true :=
    fun h hh => hmember h.ref (ResultSet.mem_refs.mpr ⟨h, hh, rfl⟩)
  have hfirst : (plan.apply rs).1 = (reconcile events rs).1 := by
    rw [apply_ofEvents hmem, reconcile_fst]
  have hsecond : (plan.apply rs).2 = (reconcile events rs).2 := by
    rw [apply_ofEvents_snd hmem hwell.distinct, reconcile_snd hwell.distinct]
  refine ⟨?_, ?_, ?_, fun others => rfl, Prod.ext hfirst hsecond⟩
  · rw [hfirst, reconcile_fst, filterMap_after]
    refine congrArg (fun hits => { rs with hits }) (List.map_congr_left fun h _ => ?_)
    cases (latest h).bind (·.snapshot) <;> rfl
  · rw [hfirst, reconcile_fst]
    exact hwell.filterMap fun _ _ => Hit.ref_of_after
  · rw [apply_ofEvents_snd hmem hwell.distinct]
    simp only [Event.removes_eq, Event.refreshes_eq]
    rfl

/-- A plan that was made when a fourth item still had a hit. One item is updated, one deleted and
then updated, one hidden; the fourth is updated too, and two events are malformed. -/
theorem effect_of_members_of_larger :
    let item : UInt64 → State → Item := fun n state =>
      { ref := ⟨n⟩, feed := "f", guid := "a", title := "new", state, received := 5 }
    let hit : UInt64 → Hit := fun n =>
      { ref := ⟨n⟩, score := Single.zero, tier := .low, state := .unread,
        attributes := { title := "old" } }
    let rs : ResultSet := { hits := [hit 1, hit 2, hit 3], generation := 7 }
    let events := [Event.updated (item 1 .read), Event.deleted ⟨2⟩,
      { ref := ⟨1⟩, kind := .unknown }, Event.updated (item 2 .new),
      Event.updated (item 3 .hidden), Event.updated (item 4 .read),
      { ref := ⟨3⟩, kind := .updated, snapshot := some (item 1 .unread) }]
    let isMember : Reference → Bool := fun ref => ref ∈ [(⟨1⟩ : Reference), ⟨2⟩, ⟨3⟩, ⟨4⟩]
    let plan := ofEvents events isMember
    (rs.WellFormed ∧ ∀ ref ∈ rs.refs, isMember ref = true) ∧
      (plan.apply rs).1 = { rs with
        hits := [(hit 1).refreshed (item 1 .read), (hit 2).refreshed (item 2 .new)] } ∧
      (plan.apply rs).2 = { removed := 1, refreshed := 2 } ∧ plan.skipped = 2 := by
  intro item hit rs events isMember plan
  have hwell : rs.WellFormed := ResultSet.wellFormed_iff.mpr (by decide)
  have hmember : ∀ ref ∈ rs.refs, isMember ref = true := by decide
  obtain ⟨hset, -, hcounts, hskipped, -⟩ := effect_of_members hwell events hmember
  exact ⟨⟨hwell, hmember⟩, hset.trans rfl, hcounts.trans (by decide),
    (hskipped _).trans (by decide)⟩

end Plan

end LiveSearch
