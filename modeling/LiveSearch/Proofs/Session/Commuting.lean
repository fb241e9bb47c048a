import LiveSearch.Proofs.Reconcile.Effect
import LiveSearch.Proofs.ResultSet.Lookup
import LiveSearch.Proofs.ResultSet.Positions

/-!
# Looked-up items and events

Looked-up items and batches of events come to a session by two ways, so they arrive in any order,
although both change the items that hits carry and both drop hits. The order does not matter
(`Session.attachResolved_comm`). For each hit there are two reasons why: **whoever drops it, it
stays dropped**, and an item that comes with an event wins, be it that the hit carries it already
when the looked-up one arrives, or that it takes the place of the looked-up one.
-/

namespace LiveSearch

namespace Hit

/-- **For one hit the order does not matter.** -/
theorem lookedUp_bind_after (items : List Item) (missing : List Reference) (events : List Event)
    (h : Hit) : (h.lookedUp items missing).bind (Hit.after events) =
      (h.after events).bind (Hit.lookedUp items missing) := by
  by_cases hmem : h.ref ∈ missing
  -- the lookup drops the hit, before the events or after them
  · rw [lookedUp_of_mem hmem, Option.bind_none, eq_comm, Option.bind_eq_none_iff]
    intro h' hafter
    exact lookedUp_of_mem (ref_of_after hafter ▸ hmem)
  · rw [lookedUp_of_notMem hmem, Option.bind_some]
    cases hword : Event.lastWord? events h.ref with
    | none =>
      rw [after_of_none hword, Option.bind_some, lookedUp_of_notMem hmem]
      exact after_of_none hword
    | some a =>
      cases a with
      | remove =>
        rw [after_of_remove hword, Option.bind_none]
        exact after_of_remove hword
      | refresh item =>
        -- the item of the event is carried in the end, whether it came first or last
        have hkeep : (h.refreshed item).lookedUp items missing = some (h.refreshed item) :=
          lookedUp_of_notMem (h := h.refreshed item) hmem
        rw [after_of_refresh hword, Option.bind_some, hkeep]
        exact after_of_refresh hword

end Hit

namespace Session

variable {s : Session} {generation : Nat}

/-- **What looked-up items do** to the hits that they were looked up for. -/
theorem session_attachResolved (hg : s.results.generation = generation) (items : List Item)
    (missing : List Reference) :
    (s.attachResolved generation items missing).session =
      { s with
        results :=
          { s.results with hits := s.results.hits.filterMap (Hit.lookedUp items missing) } } := by
  have hone : (s.attachResolved generation items missing).session =
      { s with results := (attachAll items s.results).1.removeAll missing } := by
    rw [attachResolved, if_pos hg]
  rw [hone, removeAll_attachAll]

/-- Looked-up items for hits of another generation change nothing. -/
theorem attachResolved_of_ne (hg : s.results.generation ≠ generation) (items : List Item)
    (missing : List Reference) :
    s.attachResolved generation items missing = { session := s, update := .outdated } :=
  if_neg hg

theorem session_reconcileNow (s : Session) (events : List Event) :
    (s.reconcileNow events).session =
      { s with
        results := { s.results with hits := s.results.hits.filterMap (Hit.after events) } } := by
  show { s with results := (reconcile events s.results).1 } = _
  rw [reconcile_fst]

/-- The session shows the same whether looked-up items come before some events or behind them. -/
theorem reconcileNow_attachResolved (hg : s.results.generation = generation) (items : List Item)
    (missing : List Reference) (events : List Event) :
    ((s.attachResolved generation items missing).session.reconcileNow events).session =
      { s with
        results :=
          { s.results with
            hits := s.results.hits.filterMap fun h =>
              (h.after events).bind (Hit.lookedUp items missing) } } := by
  rw [session_reconcileNow, session_attachResolved hg]
  simp only [List.filterMap_filterMap, Hit.lookedUp_bind_after]

theorem attachResolved_reconcileNow (hg : s.results.generation = generation) (items : List Item)
    (missing : List Reference) (events : List Event) :
    ((s.reconcileNow events).session.attachResolved generation items missing).session =
      { s with
        results :=
          { s.results with
            hits := s.results.hits.filterMap fun h =>
              (h.after events).bind (Hit.lookedUp items missing) } } := by
  have hsame : (s.reconcileNow events).session.results.generation = generation := by
    rw [session_reconcileNow]
    exact hg
  rw [session_attachResolved hsame, session_reconcileNow]
  simp only [List.filterMap_filterMap]

/-- **Looked-up items and events commute.** In a session with a well-formed result set it does not
matter whether the answer to a lookup, with whatever items and whatever missing references, arrives
before some events are reconciled or afterwards: the session is the same in the end. If the lookup
was for the hits that are there, each of them heeds the latest event about its reference and goes if
its item is missing, and if it carries no item then, it carries the first that was found for it. The
set stays well-formed, so the positions are exact in either case. A lookup for hits of another
generation changes nothing. -/
theorem attachResolved_comm (s : Session) (hwell : s.results.WellFormed) (generation : Nat)
    (items : List Item) (missing : List Reference) (events : List Event) :
    let attachedFirst :=
      ((s.attachResolved generation items missing).session.reconcileNow events).session
    let attachedLast :=
      ((s.reconcileNow events).session.attachResolved generation items missing).session
    attachedFirst = attachedLast ∧
      attachedFirst.results.WellFormed ∧
      (generation = s.results.generation →
        attachedFirst.results =
          { s.results with
            hits := s.results.hits.filterMap fun h =>
              (h.after events).bind (Hit.lookedUp items missing) }) ∧
      (generation ≠ s.results.generation →
        s.attachResolved generation items missing = { session := s, update := .outdated }) := by
  intro attachedFirst attachedLast
  have hreconciled : (s.reconcileNow events).session.results.WellFormed := by
    rw [session_reconcileNow]
    exact hwell.filterMap fun _ _ => Hit.ref_of_after
  by_cases hg : s.results.generation = generation
  · have hfirst := reconcileNow_attachResolved hg items missing events
    have hlast := attachResolved_reconcileNow hg items missing events
    have hrefs : ∀ h h', (Hit.after events h).bind (Hit.lookedUp items missing) = some h' →
        h'.ref = h.ref := by
      intro h h' hboth
      obtain ⟨h₁, hafter, hlooked⟩ := Option.bind_eq_some_iff.mp hboth
      exact (Hit.ref_of_lookedUp hlooked).trans (Hit.ref_of_after hafter)
    have hkept : attachedFirst.results.WellFormed := by
      rw [show attachedFirst = _ from hfirst]
      exact hwell.filterMap hrefs
    exact ⟨hfirst.trans hlast.symm, hkept, fun _ => congrArg Session.results hfirst,
      fun hne => absurd hg.symm hne⟩
  · have hkept : (s.reconcileNow events).session.results.generation ≠ generation := by
      rw [session_reconcileNow]
      exact hg
    have hfirst : attachedFirst = (s.reconcileNow events).session := by
      show ((s.attachResolved generation items missing).session.reconcileNow events).session = _
      rw [attachResolved_of_ne hg]
    have hlast : attachedLast = (s.reconcileNow events).session := by
      show ((s.reconcileNow events).session.attachResolved generation items missing).session = _
      rw [attachResolved_of_ne hkept]
    exact ⟨hfirst.trans hlast.symm, hfirst ▸ hreconciled, fun heq => absurd heq.symm hg,
      fun _ => attachResolved_of_ne hg items missing⟩

/-- A lookup that crosses with some events. Of the items that it found one has been updated since,
one deleted, and one is there twice; the item that it missed is updated as well. -/
theorem attachResolved_comm_of_crossing :
    let item : UInt64 → String → Item := fun n title =>
      { ref := ⟨n⟩, feed := "f", guid := "a", title, state := .read, received := 5 }
    let hit : UInt64 → Hit := fun n =>
      { ref := ⟨n⟩, score := Single.zero, tier := .low, state := .unread, attributes := {} }
    let rs : ResultSet := { hits := [hit 1, hit 2, hit 3, hit 4], generation := 7 }
    let s : Session := { fresh {} 0 with results := rs, phase := .completed }
    let items := [item 9 "found", item 2 "found", item 4 "first", item 1 "found", item 4 "second"]
    let events := [Event.updated (item 1 "new"), Event.deleted ⟨2⟩, Event.updated (item 3 "new")]
    s.results.WellFormed ∧
      ((s.attachResolved 7 items [⟨3⟩, ⟨8⟩]).session.reconcileNow events).session =
        ((s.reconcileNow events).session.attachResolved 7 items [⟨3⟩, ⟨8⟩]).session ∧
      ((s.attachResolved 7 items [⟨3⟩, ⟨8⟩]).session.reconcileNow events).session.results.hits =
        [(hit 1).refreshed (item 1 "new"), { hit 4 with item := some (item 4 "first") }] := by
  intro item hit rs s items events
  have hwell : s.results.WellFormed := ResultSet.wellFormed_iff.mpr (by decide)
  obtain ⟨hsame, -, hresults, -⟩ := attachResolved_comm s hwell 7 items [⟨3⟩, ⟨8⟩] events
  exact ⟨hwell, hsame, (congrArg ResultSet.hits (hresults rfl)).trans rfl⟩

end Session

end LiveSearch
