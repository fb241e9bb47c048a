import LiveSearch.Proofs.Reconcile.Effect

/-!
# Several batches

Batches applied one after the other (`reconcileAll`), with their outcomes added up. Two facts carry
the later arguments: the batches of two lists can be applied in two goes
(`reconcileAll_append`), and nothing ever happens to a set without hits
(`reconcileAll_of_hits_nil`), which is why a session may drop a batch that finds none.
-/

namespace LiveSearch

namespace Outcome

@[simp] theorem empty_add (a : Outcome) : Outcome.add {} a = a := by
  simp [Outcome.add]

@[simp] theorem add_empty (a : Outcome) : a.add {} = a := rfl

theorem add_assoc (a b c : Outcome) : (a.add b).add c = a.add (b.add c) := by
  simp [Outcome.add, Nat.add_assoc]

end Outcome

/-- **Batches applied one after the other**, and what they have done together. -/
def reconcileAll : List (List Event) → ResultSet → ResultSet × Outcome
  | [], rs => (rs, {})
  | batch :: rest, rs =>
    let (after, first) := reconcile batch rs
    let (final, others) := reconcileAll rest after
    (final, first.add others)

@[simp] theorem reconcileAll_nil (rs : ResultSet) : reconcileAll [] rs = (rs, {}) := rfl

theorem reconcileAll_cons (batch : List Event) (rest : List (List Event)) (rs : ResultSet) :
    reconcileAll (batch :: rest) rs =
      ((reconcileAll rest (reconcile batch rs).1).1,
        (reconcile batch rs).2.add (reconcileAll rest (reconcile batch rs).1).2) := rfl

@[simp] theorem reconcileAll_singleton (batch : List Event) (rs : ResultSet) :
    reconcileAll [batch] rs = reconcile batch rs := rfl

/-- The batches of two lists can be applied in two goes. -/
theorem reconcileAll_append (xs ys : List (List Event)) (rs : ResultSet) :
    reconcileAll (xs ++ ys) rs =
      ((reconcileAll ys (reconcileAll xs rs).1).1,
        (reconcileAll xs rs).2.add (reconcileAll ys (reconcileAll xs rs).1).2) := by
  induction xs generalizing rs with
  | nil => simp
  | cons batch xs ih =>
    rw [List.cons_append, reconcileAll_cons, ih, reconcileAll_cons]
    simp only [Outcome.add_assoc]

@[simp] theorem generation_reconcileAll (batches : List (List Event)) (rs : ResultSet) :
    (reconcileAll batches rs).1.generation = rs.generation := by
  induction batches generalizing rs with
  | nil => rfl
  | cons batch rest ih => rw [reconcileAll_cons, ih, generation_reconcile]

/-- A batch without events does nothing. -/
theorem reconcile_nil (rs : ResultSet) : reconcile [] rs = (rs, {}) := by
  have hkept : rs.removeAll [] = rs := by simp [ResultSet.removeAll]
  show Plan.apply {} rs = (rs, {})
  rw [Plan.apply, hkept, Plan.refreshAll, Nat.sub_self]

/-! ### Sets without hits -/

theorem reconcile_of_hits_nil {events : List Event} {rs : ResultSet} (h : rs.hits = []) :
    reconcile events rs = (rs, {}) := by
  have hcount : ∀ items : List Item, (Plan.refreshAll items rs) = (rs, 0) := by
    intro items
    induction items with
    | nil => rfl
    | cons item items ih =>
      have hsame : rs.refresh item = rs := by
        rw [ResultSet.refresh, ResultSet.modify, h, List.map_nil, ← h]
      have hout : rs.contains item.ref = false := by simp [ResultSet.contains, h]
      rw [Plan.refreshAll, hsame, ih]
      simp [hout]
  have hkept : ∀ refs, rs.removeAll refs = rs := by
    intro refs
    rw [ResultSet.removeAll, h, List.filter_nil, ← h]
  simp only [reconcile, Plan.apply, hkept, hcount, Nat.sub_self]

/-- Nothing happens to a set without hits. -/
theorem reconcileAll_of_hits_nil {batches : List (List Event)} {rs : ResultSet}
    (h : rs.hits = []) : reconcileAll batches rs = (rs, {}) := by
  induction batches with
  | nil => rfl
  | cons batch rest ih => rw [reconcileAll_cons, reconcile_of_hits_nil h, ih]; rfl

/-! ### Single hits -/

/-- A hit that is there after some batches comes from one that was there before, and heeds what they
say together. -/
theorem exists_of_mem_reconcileAll {batches : List (List Event)} {rs : ResultSet} {h' : Hit}
    (hh : h' ∈ (reconcileAll batches rs).1.hits) :
    ∃ h ∈ rs.hits, h.after batches.flatten = some h' := by
  induction batches generalizing rs with
  | nil => exact ⟨h', hh, Hit.after_nil⟩
  | cons batch rest ih =>
    obtain ⟨h₁, hh₁, hrest⟩ := ih hh
    obtain ⟨h, hmem, hfirst⟩ := mem_reconcile.mp hh₁
    exact ⟨h, hmem, Hit.after_append hfirst hrest⟩

/-- **What some batches leave, applied one after the other**: what all their events together would
leave, without the hits that a single one of the batches removes. -/
theorem reconcileAll_fst (batches : List (List Event)) (rs : ResultSet) :
    (reconcileAll batches rs).1 =
      { rs with
        hits := (rs.hits.filterMap (Hit.after batches.flatten)).filter fun h =>
          ∀ batch ∈ batches, Event.lastWord? batch h.ref ≠ some .remove } := by
  induction batches generalizing rs with
  | nil =>
    have hall : rs.hits.filterMap (Hit.after []) = rs.hits := List.filterMap_some
    simp [hall]
  | cons batch rest ih =>
    rw [reconcileAll_cons, ih, reconcile_fst, List.flatten_cons]
    simp only [List.filterMap_filterMap, List.filter_filterMap]
    refine congrArg (fun hits => { rs with hits }) (List.filterMap_congr fun h _ => ?_)
    cases hfirst : h.after batch with
    -- the first batch removes the hit, whatever the others say of it
    | none =>
      have hword := Hit.after_eq_none_iff.mp hfirst
      rw [Option.bind_none, Option.filter_none, eq_comm, Option.filter_eq_none_iff]
      intro x hx hspared
      have href := Hit.ref_of_after hx
      simp [href, hword] at hspared
    | some h₁ =>
      have hword : Event.lastWord? batch h.ref ≠ some .remove := by
        rw [ne_eq, ← Hit.after_eq_none_iff, hfirst]
        simp
      rw [Option.bind_some, Hit.after_append_eq hfirst]
      cases hrest : h₁.after rest.flatten with
      | none => rfl
      | some x =>
        have href : x.ref = h.ref := (Hit.ref_of_after hrest).trans (Hit.ref_of_after hfirst)
        simp [Option.filter, href, hword]

/-- A reference stays through some batches exactly if none of them says to remove it. -/
theorem mem_refs_reconcileAll {batches : List (List Event)} {rs : ResultSet} {ref : Reference} :
    ref ∈ (reconcileAll batches rs).1.refs ↔
      ref ∈ rs.refs ∧ ∀ batch ∈ batches, Event.lastWord? batch ref ≠ some .remove := by
  induction batches generalizing rs with
  | nil => simp
  | cons batch rest ih =>
    rw [reconcileAll_cons, ih, mem_refs_reconcile, List.forall_mem_cons, and_assoc]

end LiveSearch
