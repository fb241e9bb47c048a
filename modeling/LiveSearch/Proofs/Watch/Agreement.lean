import LiveSearch.Proofs.Session.Planning
import LiveSearch.Proofs.Watch.Soundness

/-!
# When nothing is on its way

**Once nothing is on its way to the hits of a session, they agree with the corpus**
(`Watch.hits_agree`): whatever has happened before, in whatever order, and whatever the settings.

By the invariant the hits heed what is outstanding. Nothing is outstanding if every change is
announced, every batch is received and no plan is under way (`Watch.Settled`), and what heeds
nothing shows the store as it is. Lookups and the answers to older queries may still be under way:
they can add nothing that is wrong.
-/

namespace LiveSearch.Watch

variable {heard : List Event} {w : Watch}

/-- **Nothing is on its way** to the hits. -/
structure Settled (w : Watch) : Prop where
  /-- No event is still to be announced. -/
  announced : w.change.unannounced = []
  /-- No batch is still to be received. -/
  received : w.queue = []
  /-- No plan is under way. -/
  planned : w.session.planning = none

/-- Where nothing is on its way the hits have nothing to heed. -/
theorem Current.outstanding_eq_nil (h : w.Current heard) (hkept : w.session.WellKept)
    (hsettled : w.Settled) : w.outstanding = [] := by
  obtain ⟨-, hwaiting⟩ := h.waiting_eq_nil hkept hsettled.planned
  rw [outstanding, hwaiting, upcoming, hsettled.received, hsettled.announced]
  rfl

/-- **The hits agree with the corpus** once the query has been answered and nothing is on its way:
every hit has an item in the store under its reference, in a visible state; the hit has its state
and its attributes; and if the hit carries an item, it is this one. -/
theorem hits_agree (hoccurs : w.Occurs) (hcompleted : w.session.phase = .completed)
    (hsettled : w.Settled) :
    ∀ h ∈ w.session.results.hits, ∃ item, w.corpus.store.resolve h.ref = .ok item ∧
      item.isVisible = true ∧ h.state = item.state ∧ h.attributes = Attributes.ofItem item ∧
      ∀ v, h.item = some v → v = item := by
  intro h hh
  obtain ⟨heard, hsound⟩ := hoccurs.sound
  have hcurrent := hsound.current (by rw [hcompleted]; decide)
  have hheeds := hcurrent.hits h hh
  -- with nothing left to heed, the hit is what it will come to
  rw [hcurrent.outstanding_eq_nil hsound.kept hsettled] at hheeds
  exact hheeds.shows rfl

/-! ### A query for one item -/

/-- The corpus of one item. -/
def solitary (item : Item) : Corpus :=
  (({} : Corpus).perform (Edit.update item).change).1

theorem grown_solitary (item : Item) : (solitary item).Grown :=
  .edit (.update item) .empty

/-- **The only item is found** by the first query of a session. -/
theorem run_issue_arrived {settings : Settings} {subscription : Nat} {item : Item}
    (hsession : w.session = .fresh settings subscription) (herrands : w.errands = [])
    (hverify : settings.verifyExistence = false)
    (hdocuments : w.corpus.index.documents = [Document.ofItem item])
    (hreceived : 0 < item.received.toNat) (hvisible : item.isVisible = true) :
    w.run [.issue [Condition.arrived] true, .proceed 0] =
      { w with
        session := (Session.fresh settings subscription).begin
        errands := [.answered 1 [.ofItem item] []] } := by
  obtain ⟨corpus, change, session, errands⟩ := w
  obtain rfl : session = _ := hsession
  obtain rfl : errands = [] := herrands
  have hreading : (Errand.asked 1 [Condition.arrived] true settings.verifyExistence).proceed
      corpus.sources = .answered 1 [.ofItem item] [] := by
    rw [Errand.proceed, hverify]
    show Errand.ofWork (.query 1 (Provider.execute corpus.index.search _ true) false) = _
    rw [Index.execute_arrived hdocuments hreceived hvisible]
    rfl
  rw [← hreading]
  rfl

/-- **The answer is delivered** to a session that looks nothing up. -/
theorem step_deliver_arrived {settings : Settings} {subscription : Nat} {item : Item}
    (hsession : w.session = (Session.fresh settings subscription).begin)
    (herrands : w.errands = [.answered 1 [.ofItem item] []])
    (heager : settings.eagerResolveCount = 0) (hvisible : item.isVisible = true) :
    w.step (.deliver 0) =
      { w with
        session :=
          { Session.fresh settings subscription with
            results := { hits := Hit.classify [.ofItem item], generation := 1 }
            sequence := 1
            phase := .completed }
        errands := [] } := by
  obtain ⟨corpus, change, session, errands⟩ := w
  obtain rfl : session = _ := hsession
  obtain rfl : errands = _ := herrands
  have hinstall := Session.session_install_singleton corpus.sources.resolver settings subscription
    (.ofItem item) hvisible
  have hwork : ((Session.fresh settings subscription).begin.install corpus.sources.resolver
      [.ofItem item]).work = [] := by
    show Session.eagerLookups ((Session.fresh settings subscription).begin.install
      corpus.sources.resolver [.ofItem item]).session = []
    rw [hinstall]
    simp [Session.eagerLookups, Session.fresh, heager]
  have hstep : step ⟨corpus, change, (Session.fresh settings subscription).begin,
      [.answered 1 [.ofItem item] []]⟩ (.deliver 0) =
      react ⟨corpus, change, (Session.fresh settings subscription).begin, []⟩
        ((Session.fresh settings subscription).begin.install corpus.sources.resolver
          [.ofItem item]) := rfl
  rw [hstep, react, hinstall, hwork]
  rfl

/-- An unread item. -/
def unreadItem : Item :=
  { ref := ⟨1⟩, feed := "f", guid := "a", title := "A", state := .unread, received := 5 }

/-- A session that looks nothing up in the background has found the only item. -/
theorem hits_agree_of_solitary :
    let w := (opening (solitary unreadItem) { eagerResolveCount := 0 }).run
      [.issue [Condition.arrived] true, .proceed 0, .deliver 0]
    (w.Occurs ∧ w.session.phase = .completed ∧ w.Settled) ∧
      w.session.results.refs = [unreadItem.ref] ∧
      ∀ h ∈ w.session.results.hits, ∃ item, w.corpus.store.resolve h.ref = .ok item ∧
        item.isVisible = true ∧ h.state = item.state ∧ h.attributes = Attributes.ofItem item ∧
        ∀ v, h.item = some v → v = item := by
  intro w
  have hoccurs : w.Occurs := ⟨_, _, _, grown_solitary unreadItem, rfl⟩
  have hw : w =
      { opening (solitary unreadItem) { eagerResolveCount := 0 } with
        session :=
          { Session.fresh { eagerResolveCount := 0 } 0 with
            results := { hits := Hit.classify [.ofItem unreadItem], generation := 1 }
            sequence := 1
            phase := .completed } } := by
    have hdocuments : (solitary unreadItem).index.documents = [Document.ofItem unreadItem] := rfl
    have hdeliver := run_snoc (opening (solitary unreadItem) { eagerResolveCount := 0 })
      [.issue [Condition.arrived] true, .proceed 0] (.deliver 0)
    rw [run_issue_arrived rfl rfl rfl hdocuments (by decide) rfl,
      step_deliver_arrived rfl rfl rfl rfl] at hdeliver
    exact hdeliver
  have hcompleted : w.session.phase = .completed := by rw [hw]
  have hsettled : w.Settled := by
    rw [hw]
    exact ⟨rfl, rfl, rfl⟩
  refine ⟨⟨hoccurs, hcompleted, hsettled⟩, ?_, hits_agree hoccurs hcompleted hsettled⟩
  rw [hw]
  rfl

end LiveSearch.Watch
