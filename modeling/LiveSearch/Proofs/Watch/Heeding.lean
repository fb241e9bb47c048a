import LiveSearch.Proofs.Corpus.Changes
import LiveSearch.Proofs.Reconcile.Effect
import LiveSearch.Proofs.ResultSet.Lookup

/-!
# Hits that are to hear of changes

A hit **shows** the store (`Hit.Shows`) if it says of its item what the store says. Most of the time
hits do not: the events that will put them right are still on their way. What holds of them at all
times is that they **heed** these events (`Hit.Heeds`): what the events will leave of the hit shows
the store.

This is the form in which a hit survives everything that can happen to it. The store changes and
tells of it (`Hit.Heeds.tells`); some of the events arrive (`Hit.Heeds.after`); an item that was
looked up in between is attached to it (`Hit.Heeds.attach`).
-/

namespace LiveSearch.Hit

/-- **The hit says of its item what the store says**: the item is there, in a visible state, with
this state and these attributes; and if the hit carries an item, it is this one. -/
def Shows (h : Hit) (s : Store) : Prop :=
  ∃ item, s.resolve h.ref = .ok item ∧ item.isVisible = true ∧ h.state = item.state ∧
    h.attributes = Attributes.ofItem item ∧ ∀ v, h.item = some v → v = item

/-- **The hit heeds some events**: what they leave of it shows the store. -/
def Heeds (h : Hit) (events : List Event) (s : Store) : Prop :=
  ∀ x, h.after events = some x → x.Shows s

variable {h h' : Hit} {events : List Event} {s t : Store} {item v : Item}

/-- A hit that was refreshed with what the store says shows it. -/
theorem shows_refreshed (hword : s.word h.ref = .refresh item) : (h.refreshed item).Shows s := by
  obtain ⟨hstored, hv⟩ := Store.word_eq_refresh_iff.mp hword
  refine ⟨item, hstored, hv, rfl, rfl, fun v hsome => ?_⟩
  exact (Option.some.inj hsome).symm

theorem Shows.congr (hs : h.Shows s) (hsame : t.resolve h.ref = s.resolve h.ref) : h.Shows t := by
  obtain ⟨item, hstored, hrest⟩ := hs
  exact ⟨item, hsame.trans hstored, hrest⟩

/-- A hit heeds events that say of it what the store says, or are silent about a hit that shows the
store already. -/
theorem heeds_of (hsilent : Event.lastWord? events h.ref = none → h.Shows s)
    (hspoken : ∀ a, Event.lastWord? events h.ref = some a → s.word h.ref = a) :
    h.Heeds events s := by
  intro x hx
  rcases after_cases hx with ⟨hnone, rfl⟩ | ⟨item, hsome, rfl⟩
  · exact hsilent hnone
  · exact shows_refreshed (hspoken _ hsome)

namespace Heeds

theorem shows (hh : h.Heeds events s) (hsilent : Event.lastWord? events h.ref = none) :
    h.Shows s :=
  hh h (after_of_none hsilent)

/-- **The store changes** and tells of it. -/
theorem tells {news : List Event} (hh : h.Heeds events s) (ht : Store.Tells news s t) :
    h.Heeds (events ++ news) t := by
  intro x hx
  cases hnews : Event.lastWord? news h.ref with
  | none =>
    -- the news is not about this hit, so the older events decide, and nothing has changed
    have hold : h.after events = some x := by
      rw [after, Event.lastWord?_append, hnews, Option.none_or, ← after] at hx
      exact hx
    refine (hh x hold).congr (ht.silent x.ref ?_)
    rw [ref_of_after hold]
    exact hnews
  | some a =>
    have hlast : Event.lastWord? (events ++ news) h.ref = some a := by
      rw [Event.lastWord?_append, hnews, Option.some_or]
    rcases after_cases hx with ⟨hnone, -⟩ | ⟨item, hsome, rfl⟩
    · rw [hlast] at hnone
      cases hnone
    · rw [hlast] at hsome
      obtain rfl := Option.some.inj hsome
      exact shows_refreshed (ht.spoken h.ref _ hnews)

/-- **Some of the events arrive**: what they leave of the hit heeds the others. -/
theorem after {first rest : List Event} (hh : h.Heeds (first ++ rest) s)
    (hfirst : h.after first = some h') : h'.Heeds rest s := by
  intro x hx
  exact hh x (after_append hfirst hx)

/-- **A looked-up item is attached** to the hit. It may be out of date, but only if the events will
replace it. -/
theorem attach (hh : h.Heeds events s)
    (hitem : Event.lastWord? events h.ref = none → s.resolve h.ref = .ok v) :
    Heeds { h with item := some v } events s := by
  intro x hx
  rcases after_cases hx with ⟨hnone, rfl⟩ | ⟨item, hsome, rfl⟩
  · obtain ⟨item, hstored, hv, hstate, hattributes, -⟩ := hh.shows hnone
    -- nothing will be said of the hit, so the item is the one that it shows
    obtain rfl : v = item := Except.ok.inj ((hitem hnone).symm.trans hstored)
    exact ⟨v, hstored, hv, hstate, hattributes, fun u hu => (Option.some.inj hu).symm⟩
  · exact hh _ (after_of_refresh hsome)

/-- The hits after a lookup heed what the hits before it heeded, if each of the items that were
found is what the store has or will be replaced. -/
theorem attachedBy {items : List Item} (hh : h.Heeds events s)
    (hitems : h.item = none → ∀ v ∈ items, v.ref = h.ref →
      Event.lastWord? events h.ref = none → s.resolve h.ref = .ok v) :
    (Session.attachedBy items h).Heeds events s := by
  rcases Session.attachedBy_cases items h with heq | ⟨hnone, v, hv, href, heq⟩
  · rw [heq]
    exact hh
  · rw [heq]
    exact hh.attach (hitems hnone v hv href)

end Heeds

end LiveSearch.Hit
