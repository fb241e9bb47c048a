import LiveSearch.Proofs.Reconcile.LastWord
import LiveSearch.Reconcile.Plan
import Mathlib.Data.List.Basic

/-!
# What a batch does to a result set

A plan is made in two lists, of removals and of refreshes, and applied in two passes. This file says
what comes of it hit by hit: **every hit heeds the last word on its reference**
(`Hit.after`), whatever the membership was that the batch was planned against, as long as it holds
for the references of the set (`Plan.apply_ofEvents`).

The one thing to know about several batches is that they do not compose: a hit that one of them
removes does not come back with a refresh in the next, although the last word of both together is
that refresh. Composition holds in one direction only, for the hits that are still there
(`Hit.after_append`).
-/

namespace LiveSearch

/-! ### One hit -/

namespace Hit

/-- **The hit after some events**: gone if the last word on its reference is a removal, refreshed if
it is a refresh, and as it was if there is none. -/
def after (events : List Event) (h : Hit) : Option Hit :=
  match Event.lastWord? events h.ref with
  | none => some h
  | some .remove => none
  | some (.refresh item) => some (h.refreshed item)

variable {events : List Event} {h h' : Hit} {item : Item}

theorem after_of_none (hw : Event.lastWord? events h.ref = none) : h.after events = some h := by
  rw [after, hw]

theorem after_of_remove (hw : Event.lastWord? events h.ref = some .remove) :
    h.after events = none := by
  rw [after, hw]

theorem after_of_refresh (hw : Event.lastWord? events h.ref = some (.refresh item)) :
    h.after events = some (h.refreshed item) := by
  rw [after, hw]

/-- The three cases of a hit that is still there after some events, and of one that is not. -/
theorem after_eq_none_iff : h.after events = none ↔
    Event.lastWord? events h.ref = some .remove := by
  rw [after]
  split <;> simp_all

@[simp] theorem after_nil : h.after [] = some h := rfl

@[simp] theorem ref_refreshed (h : Hit) (item : Item) : (h.refreshed item).ref = h.ref := rfl

@[simp] theorem refreshed_refreshed (h : Hit) (a b : Item) :
    (h.refreshed a).refreshed b = h.refreshed b := rfl

/-- Events leave the reference of a hit alone. -/
theorem ref_of_after (ha : h.after events = some h') : h'.ref = h.ref := by
  rw [after] at ha
  split at ha
  · rw [← Option.some.inj ha]
  · simp at ha
  · rw [← Option.some.inj ha, ref_refreshed]

/-- A hit is as it was, or it was refreshed. -/
theorem after_cases (ha : h.after events = some h') :
    (Event.lastWord? events h.ref = none ∧ h' = h) ∨
      ∃ item, Event.lastWord? events h.ref = some (.refresh item) ∧ h' = h.refreshed item := by
  rw [after] at ha
  split at ha
  · next hw => exact Or.inl ⟨hw, (Option.some.inj ha).symm⟩
  · simp at ha
  · next item hw => exact Or.inr ⟨item, hw, (Option.some.inj ha).symm⟩

/-- **A hit that survives two lists of events one after the other** is what both together make of
it. The converse fails where the first list removes the hit. -/
theorem after_append {xs ys : List Event} {h₁ h₂ : Hit} (h1 : h.after xs = some h₁)
    (h2 : h₁.after ys = some h₂) : h.after (xs ++ ys) = some h₂ := by
  have href : h₁.ref = h.ref := ref_of_after h1
  have happ := Event.lastWord?_append xs ys h.ref
  rcases after_cases h2 with ⟨hy, rfl⟩ | ⟨item, hy, rfl⟩
  -- the later events are silent, so the earlier ones keep the last word
  · rw [href] at hy
    rw [hy, Option.none_or] at happ
    rwa [after, happ, ← after]
  · rw [href] at hy
    rw [hy, Option.some_or] at happ
    rw [after_of_refresh happ]
    rcases after_cases h1 with ⟨-, rfl⟩ | ⟨earlier, -, rfl⟩
    · rfl
    · rw [refreshed_refreshed]

/-- A hit that survives the first of two lists of events is, after both, what the second makes of
it. -/
theorem after_append_eq {xs ys : List Event} {h₁ : Hit} (h1 : h.after xs = some h₁) :
    h.after (xs ++ ys) = h₁.after ys := by
  cases h2 : h₁.after ys with
  | some h₂ => exact after_append h1 h2
  | none =>
    rw [after_eq_none_iff, ref_of_after h1] at h2
    rw [after_eq_none_iff, Event.lastWord?_append, h2, Option.some_or]

end Hit

/-! ### The lists of a plan -/

namespace Plan

/-- The last action of a plan for a reference is the last word on it, if it is a member. -/
theorem lastAction?_actions (events : List Event) (isMember : Reference → Bool) (ref : Reference) :
    lastAction? (actions events isMember) ref =
      if isMember ref then Event.lastWord? events ref else none := by
  induction events with
  | nil => simp [actions, lastAction?]
  | cons e events ih =>
    have hcons : lastAction? (actions (e :: events) isMember) ref =
        (lastAction? (actions events isMember) ref).or
          (lastAction? (actions [e] isMember) ref) := by
      have happ : actions (e :: events) isMember =
          actions [e] isMember ++ actions events isMember := by
        rw [actions, ← List.singleton_append, List.filterMap_append, List.filter_append]
        rfl
      rw [happ, lastAction?, List.reverse_append, List.find?_append, Option.map_or]
      rfl
    -- the first event alone contributes nothing, if it is malformed or about another reference
    have hone : lastAction? (actions [e] isMember) ref =
        if isMember ref then Event.asks? ref e else none := by
      by_cases href : e.ref = ref
      · subst href
        cases hact : e.action? <;> cases hmem : isMember e.ref <;>
          simp [actions, lastAction?, Event.asks?, hact, hmem]
      · rw [Event.asks?, if_neg href, ite_self]
        cases hact : e.action? <;> cases hmem : isMember e.ref <;>
          simp [actions, lastAction?, hact, hmem, href]
    rw [hcons, hone, ih, Event.lastWord?_cons]
    by_cases hmem : isMember ref <;> simp [hmem]

theorem mem_touched {actions : List (Reference × Action)} {ref : Reference} {a : Action}
    (h : lastAction? actions ref = some a) : ref ∈ touched actions := by
  obtain ⟨entry, hfind, -⟩ := Option.map_eq_some_iff.mp h
  have hmem : entry ∈ actions := List.mem_reverse.mp (List.mem_of_find?_eq_some hfind)
  have href : entry.1 = ref := by simpa using List.find?_some hfind
  exact List.mem_eraseDups.mpr (List.mem_map.mpr ⟨entry, hmem, href⟩)

variable {events : List Event} {isMember : Reference → Bool}

/-- The removals of a plan are the members on which the last word is a removal. -/
theorem mem_removals_ofEvents {ref : Reference} :
    ref ∈ (ofEvents events isMember).removals ↔
      isMember ref = true ∧ Event.lastWord? events ref = some .remove := by
  have hlast := lastAction?_actions events isMember ref
  simp only [ofEvents, List.mem_map, List.mem_filter, decide_eq_true_eq]
  constructor
  · rintro ⟨_, ⟨⟨ref', -, rfl⟩, hw⟩, rfl⟩
    rw [hlast] at hw
    by_cases hmem : isMember ref'
    · exact ⟨hmem, by simpa [hmem] using hw⟩
    · simp [hmem] at hw
  · rintro ⟨hmem, hw⟩
    rw [if_pos hmem, hw] at hlast
    exact ⟨_, ⟨⟨ref, mem_touched hlast, rfl⟩, hlast⟩, rfl⟩

/-- The refreshes of a plan are the last words on members that are refreshes. -/
theorem mem_refreshes_ofEvents {item : Item} :
    item ∈ (ofEvents events isMember).refreshes ↔
      isMember item.ref = true ∧ Event.lastWord? events item.ref = some (.refresh item) := by
  simp only [ofEvents, List.mem_filterMap, List.mem_map]
  constructor
  · rintro ⟨_, ⟨ref, -, rfl⟩, hw⟩
    obtain ⟨a, ha, hitem⟩ := Option.bind_eq_some_iff.mp hw
    rw [lastAction?_actions] at ha
    by_cases hmem : isMember ref
    · cases a with
      | remove => simp [refreshOf?] at hitem
      | refresh item' =>
        obtain rfl : item' = item := by simpa [refreshOf?] using hitem
        have hlast : Event.lastWord? events ref = some (.refresh item') := by simpa [hmem] using ha
        obtain ⟨rfl, -⟩ := Event.ref_of_lastWord?_refresh hlast
        exact ⟨hmem, hlast⟩
    · simp [hmem] at ha
  · rintro ⟨hmem, hw⟩
    have hlast := lastAction?_actions events isMember item.ref
    rw [if_pos hmem, hw] at hlast
    exact ⟨_, ⟨item.ref, mem_touched hlast, rfl⟩, by rw [hlast]; rfl⟩

/-! ### Applying a plan -/

/-- The hit after the refreshes of a list. -/
def refreshedBy (items : List Item) (h : Hit) : Hit :=
  items.foldl (fun h item => if h.ref = item.ref then h.refreshed item else h) h

theorem refreshedBy_of_forall_ne {items : List Item} {h : Hit} (hne : ∀ v ∈ items, v.ref ≠ h.ref) :
    refreshedBy items h = h := by
  induction items with
  | nil => rfl
  | cons item items ih =>
    rw [refreshedBy, List.foldl_cons, if_neg (hne item (by simp)).symm]
    exact ih fun v hv => hne v (by simp [hv])

/-- Where all refreshes of a hit show one version, the hit shows it after them. -/
theorem refreshedBy_of_mem {items : List Item} {h : Hit} {item : Item} (hmem : item ∈ items)
    (href : item.ref = h.ref) (huniq : ∀ v ∈ items, v.ref = h.ref → v = item) :
    refreshedBy items h = h.refreshed item := by
  induction items generalizing h with
  | nil => simp at hmem
  | cons first items ih =>
    rw [refreshedBy, List.foldl_cons]
    by_cases hfirst : h.ref = first.ref
    · obtain rfl : first = item := huniq first (by simp) hfirst.symm
      rw [if_pos hfirst]
      by_cases hrest : ∃ v ∈ items, v.ref = h.ref
      · obtain ⟨v, hv, hvref⟩ := hrest
        obtain rfl : v = first := huniq v (by simp [hv]) hvref
        exact ih (h := h.refreshed v) hv href fun u hu => huniq u (by simp [hu])
      · exact refreshedBy_of_forall_ne fun v hv hvref => hrest ⟨v, hv, hvref⟩
    · rw [if_neg hfirst]
      rcases List.mem_cons.mp hmem with rfl | hrest
      · exact absurd href.symm hfirst
      · exact ih hrest href fun v hv => huniq v (by simp [hv])

theorem refreshAll_fst (items : List Item) (rs : ResultSet) :
    (refreshAll items rs).1 = { rs with hits := rs.hits.map (refreshedBy items) } := by
  induction items generalizing rs with
  | nil => exact congrArg (fun hits => { rs with hits }) (List.map_id' rs.hits).symm
  | cons item items ih =>
    rw [refreshAll, ih]
    simp only [ResultSet.refresh, ResultSet.modify, List.map_map]
    rfl

theorem apply_fst (p : Plan) (rs : ResultSet) :
    (p.apply rs).1 =
      { rs with hits := (rs.hits.filter (·.ref ∉ p.removals)).map (refreshedBy p.refreshes) } := by
  rw [apply, refreshAll_fst]
  rfl

/-- What the plan of a batch does to a hit that was a member. -/
theorem refreshedBy_ofEvents {h : Hit} (hmem : isMember h.ref = true) :
    (if h.ref ∉ (ofEvents events isMember).removals then
      some (refreshedBy (ofEvents events isMember).refreshes h) else none) = h.after events := by
  cases hw : Event.lastWord? events h.ref with
  | none =>
    have hkeep : h.ref ∉ (ofEvents events isMember).removals := by
      simp [mem_removals_ofEvents, hw]
    rw [if_pos hkeep, Hit.after_of_none hw, refreshedBy_of_forall_ne]
    intro v hv href
    rw [mem_refreshes_ofEvents, href, hw] at hv
    exact absurd hv.2 (by simp)
  | some a =>
    cases a with
    | remove =>
      have hgone : h.ref ∈ (ofEvents events isMember).removals :=
        mem_removals_ofEvents.mpr ⟨hmem, hw⟩
      rw [if_neg (not_not_intro hgone), Hit.after_of_remove hw]
    | refresh item =>
      have hkeep : h.ref ∉ (ofEvents events isMember).removals := by
        simp [mem_removals_ofEvents, hw]
      obtain ⟨href, -⟩ := Event.ref_of_lastWord?_refresh hw
      rw [if_pos hkeep, Hit.after_of_refresh hw]
      refine congrArg some (refreshedBy_of_mem ?_ href ?_)
      · exact mem_refreshes_ofEvents.mpr ⟨by rw [href]; exact hmem, by rw [href]; exact hw⟩
      · intro v hv hvref
        rw [mem_refreshes_ofEvents, hvref, hw] at hv
        simpa using hv.2.symm

/-- **The exact effect of a plan.** Applied to a set all of whose references were members, the plan
of a batch lets every hit heed the last word on its reference and leaves all else alone. So a plan
made against an older, larger membership does what one made on the spot would do. -/
theorem apply_ofEvents {rs : ResultSet} (hmem : ∀ h ∈ rs.hits, isMember h.ref = true) :
    ((ofEvents events isMember).apply rs).1 =
      { rs with hits := rs.hits.filterMap (Hit.after events) } := by
  rw [apply_fst, ← List.filterMap_eq_map', List.filterMap_filter]
  -- hit by hit: all of them are members, so the plan has the last word on each
  refine congrArg (fun hits => { rs with hits }) (List.filterMap_congr fun h hh => ?_)
  rw [← refreshedBy_ofEvents (hmem h hh)]
  simp only [decide_eq_true_eq]

end Plan

/-! ### Reconciling -/

namespace ResultSet

theorem contains_iff {rs : ResultSet} {ref : Reference} :
    rs.contains ref = true ↔ ∃ h ∈ rs.hits, h.ref = ref := by
  simp [contains]

theorem mem_refs {rs : ResultSet} {ref : Reference} :
    ref ∈ rs.refs ↔ ∃ h ∈ rs.hits, h.ref = ref := by
  simp [refs]

theorem contains_of_mem {rs : ResultSet} {h : Hit} (hh : h ∈ rs.hits) :
    rs.contains h.ref = true :=
  contains_iff.mpr ⟨h, hh, rfl⟩

/-- The two ways of asking for membership agree. -/
theorem contains_eq_decide_mem_refs (rs : ResultSet) :
    rs.contains = fun ref => decide (ref ∈ rs.refs) := by
  funext ref
  rw [Bool.eq_iff_iff, contains_iff, decide_eq_true_eq, mem_refs]

end ResultSet

/-- **Reconciling lets every hit heed the last word on its reference.** -/
theorem reconcile_fst (events : List Event) (rs : ResultSet) :
    (reconcile events rs).1 = { rs with hits := rs.hits.filterMap (Hit.after events) } :=
  Plan.apply_ofEvents fun _ hh => ResultSet.contains_of_mem hh

theorem mem_reconcile {events : List Event} {rs : ResultSet} {h' : Hit} :
    h' ∈ (reconcile events rs).1.hits ↔ ∃ h ∈ rs.hits, h.after events = some h' := by
  rw [reconcile_fst, List.mem_filterMap]

@[simp] theorem generation_reconcile (events : List Event) (rs : ResultSet) :
    (reconcile events rs).1.generation = rs.generation := by
  rw [reconcile_fst]

/-- A reference stays in the set exactly if it was there and the last word on it is no removal. -/
theorem mem_refs_reconcile {events : List Event} {rs : ResultSet} {ref : Reference} :
    ref ∈ (reconcile events rs).1.refs ↔
      ref ∈ rs.refs ∧ Event.lastWord? events ref ≠ some .remove := by
  simp only [ResultSet.mem_refs, mem_reconcile]
  constructor
  · rintro ⟨h', ⟨h, hh, hafter⟩, rfl⟩
    have href : h'.ref = h.ref := Hit.ref_of_after hafter
    refine ⟨⟨h, hh, href.symm⟩, fun hw => ?_⟩
    rw [Hit.after_eq_none_iff.mpr (href ▸ hw)] at hafter
    simp at hafter
  · rintro ⟨⟨h, hh, rfl⟩, hw⟩
    cases hafter : h.after events with
    | none => exact absurd (Hit.after_eq_none_iff.mp hafter) hw
    | some h' => exact ⟨h', ⟨h, hh, hafter⟩, Hit.ref_of_after hafter⟩

end LiveSearch
