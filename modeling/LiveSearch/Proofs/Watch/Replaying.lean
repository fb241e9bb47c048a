import LiveSearch.Proofs.Reconcile.Buffer
import LiveSearch.Proofs.Reconcile.Rechecking
import LiveSearch.Proofs.Session.Acts
import LiveSearch.Proofs.Watch.Heeding

/-!
# Replaying over the hits of an answer

When a query is answered, the events that were heard while it ran are replayed over its hits. Most
of them are still in the replay buffer; where a refresh had to give way, its reference is looked up
again. A buffer that holds what was heard makes up for the loss: of a reference that was evicted the
last word heard was a refresh, so the hit is there to be looked up, and what the lookup finds is
what the store has now.
-/

namespace LiveSearch

theorem Store.Faithful.keyed {s : Store} (h : s.Faithful) : Resolver.Keyed s.resolve :=
  h.found

/-- Looking a reference up in a faithful store says what the store says. -/
theorem Store.Faithful.action?_event? {s : Store} (h : s.Faithful) (ref : Reference) :
    (Resolver.event? s.resolve ref).bind Event.action? = some (s.word ref) := by
  rw [Resolver.event?, word]
  cases hr : s.resolve ref with
  | ok item => exact Event.action?_updated item
  | error e =>
    simp only [h.failed ref e hr, if_true]
    rfl

namespace Session

open ReplayBuffer

variable {b : ReplayBuffer} {heard : List Event} {s : Store} {rs : ResultSet}

/-- The set after a replay, in two goes. -/
theorem replayOver_take (resolver : Resolver) (b : ReplayBuffer) (rs : ResultSet) :
    (replayOver resolver b.take.1 rs).1 =
      (reconcile (recheckEvents b.evicted resolver (reconcile b.events rs).1)
        (reconcile b.events rs).1).1 := rfl

/-- A reference that is still there after the buffered events is one whose hit was there. -/
theorem lastWord?_recheck (hs : s.Faithful) {h' : Hit} (hh : h' ∈ (reconcile b.events rs).1.hits) :
    Event.lastWord? (recheckEvents b.evicted s.resolve (reconcile b.events rs).1) h'.ref =
      if h'.ref ∈ b.evicted then some (s.word h'.ref) else none := by
  rw [lastWord?_recheckEvents (hs.keyed.on b.evicted) (ResultSet.mem_refs.mpr ⟨h', hh, rfl⟩),
    hs.action?_event?]

/-- **The hits after a replay.** If the hits of the answer heed all that was heard and all that is
still to come, then those that the replay leaves heed what is still to come. -/
theorem heeds_of_mem_replayOver (hb : b.Holds heard) (hs : s.Faithful) {upcoming : List Event}
    (htold : ∀ ref a, Event.lastWord? upcoming ref = some a → s.word ref = a)
    (hheeds : ∀ h ∈ rs.hits, h.Heeds (heard ++ upcoming) s) {x : Hit}
    (hx : x ∈ (replayOver s.resolve b.take.1 rs).1.hits) : x.Heeds upcoming s := by
  rw [replayOver_take] at hx
  obtain ⟨h₁, hh₁, hafter⟩ := mem_reconcile.mp hx
  obtain ⟨h, hh, hfirst⟩ := mem_reconcile.mp hh₁
  have href : h₁.ref = h.ref := Hit.ref_of_after hfirst
  have hword := lastWord?_recheck hs hh₁
  by_cases hevicted : h₁.ref ∈ b.evicted
  -- the lookup decides, and it says what the store says now
  · rw [if_pos hevicted] at hword
    rcases Hit.after_cases hafter with ⟨hnone, -⟩ | ⟨item, hsome, rfl⟩
    · rw [hnone] at hword
      cases hword
    · have hstore : s.word h₁.ref = .refresh item := Option.some.inj (hword.symm.trans hsome)
      refine Hit.heeds_of (fun _ => Hit.shows_refreshed hstore) fun a ha => ?_
      exact htold h₁.ref a ha
  -- the buffer decides, and it has the last word of what was heard
  · rw [if_neg hevicted] at hword
    rw [Hit.after_of_none hword] at hafter
    obtain rfl := Option.some.inj hafter
    have hkept := hb.kept h.ref (href ▸ hevicted)
    have hall : h.after heard = some h₁ := by
      rw [Hit.after, ← hkept, ← Hit.after]
      exact hfirst
    exact (hheeds h hh).after hall

/-- **The references after a replay.** Where the store has a visible item, its hit stays exactly if
the last word that was heard on it is no removal. -/
theorem mem_refs_replayOver (hb : b.Holds heard) (hs : s.Faithful) {ref : Reference}
    (hstored : s.word ref ≠ .remove) :
    ref ∈ (replayOver s.resolve b.take.1 rs).1.refs ↔
      ref ∈ rs.refs ∧ Event.lastWord? heard ref ≠ some .remove := by
  have hbuffer : Event.lastWord? b.events ref ≠ some .remove ↔
      Event.lastWord? heard ref ≠ some .remove := by
    by_cases hevicted : ref ∈ b.evicted
    · obtain ⟨hsilent, item, hrefresh⟩ := hb.evicted ref hevicted
      rw [hsilent, hrefresh]
      simp
    · rw [hb.kept ref hevicted]
  rw [replayOver_take, mem_refs_reconcile, mem_refs_reconcile, hbuffer, and_iff_left_iff_imp]
  intro hin
  obtain ⟨h₁, hh₁, rfl⟩ := ResultSet.mem_refs.mp (mem_refs_reconcile.mpr
    ⟨hin.1, hbuffer.mpr hin.2⟩)
  rw [lastWord?_recheck hs hh₁]
  split
  · simpa using hstored
  · simp

end Session

end LiveSearch
